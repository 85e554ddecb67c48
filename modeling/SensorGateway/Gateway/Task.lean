import SensorGateway.Session.Device

/-!
# Session tasks

A connected device has a task, which alone owns the device's session.  Chunks wait for it in a queue
of bounded length.  It takes one, decodes it, and then reports what came of it: it takes its lock,
looks whether it may still report, publishes, emits one event after the other and gives the lock
back.  Each of these is a step of its own: anything may happen in between.

A task is stopped in two ways.  Being *silenced* takes effect when it is about to report: it ends
instead.  Nobody can silence it while it holds its lock.  Being *aborted* takes effect when it would
wait for the next chunk, and even there a task that finds a chunk may go on with it.
-/

namespace SensorGateway

/-- Where a task is. -/
inductive Phase
  /-- Waiting for a chunk. -/
  | waiting
  /-- A chunk has been taken. -/
  | decoding (chunk : Bytes)
  /-- A chunk has been decoded into these events. -/
  | reporting (events : List Event)
  /-- The lock has been taken, and the task may report. -/
  | publishing (events : List Event)
  /-- The record has been published; the lock is still held. -/
  | emitting (events : List Event)
  | ended
  deriving BEq

/-- A task. -/
structure Task where
  session : DeviceSession
  /-- The chunks that wait, the oldest first. -/
  chunks : List Bytes := []
  /-- Whether it has not been silenced. -/
  live : Bool := true
  aborted : Bool := false
  phase : Phase := .waiting

namespace Task

/-- A task that has been given nothing. -/
def new (session : DeviceSession) : Task where
  session

/-- The most chunks that wait. -/
def capacity : Nat := 64

/-- Whether the task is over. -/
def isEnded (t : Task) : Bool := t.phase == .ended

/-- Whether it holds its lock. -/
def holdsLock (t : Task) : Bool :=
  match t.phase with
  | .publishing _ | .emitting _ => true
  | .waiting | .decoding _ | .reporting _ | .ended => false

/-- The events that it has still to emit. -/
def unsent (t : Task) : List Event :=
  match t.phase with
  | .reporting events | .publishing events | .emitting events => events
  | .waiting | .decoding _ | .ended => []

/-- How many bytes it has still to decode, or has decoded without finding a whole frame. -/
def undecoded (t : Task) : Nat :=
  let waiting := t.session.buffered + t.chunks.flatten.length
  match t.phase with
  | .decoding chunk => chunk.length + waiting
  | .waiting | .reporting _ | .publishing _ | .emitting _ | .ended => waiting

/-- Whether there is no room for another chunk. -/
def isFull (t : Task) : Bool := capacity ≤ t.chunks.length

/-- Adds a chunk, for which there is room. -/
def enqueue (t : Task) (chunk : Bytes) : Task := { t with chunks := t.chunks ++ [chunk] }

/-- Ends the task; what waits for it is lost. -/
def finish (t : Task) : Task := { t with phase := .ended, chunks := [] }

/-- Takes the next chunk, if one waits. -/
def takeChunk (t : Task) : Task :=
  match t.chunks with
  | [] => t
  | chunk :: rest => { t with chunks := rest, phase := .decoding chunk }

/-- Takes the next chunk, or ends if the task has been aborted. -/
def take (t : Task) : Task := if t.aborted then t.finish else t.takeChunk

/-- Goes on with the next chunk, if the task is between two chunks, without minding an abort. -/
def linger (t : Task) : Task :=
  match t.phase with
  | .waiting => t.takeChunk
  | .decoding _ | .reporting _ | .publishing _ | .emitting _ | .ended => t

/-- Decodes a chunk.  If nothing comes of it the task waits again. -/
def decode (t : Task) (chunk : Bytes) (now : Instant) : Task × List Log.Entry :=
  let handled := t.session.handle chunk now
  let phase := if handled.events.isEmpty then .waiting else .reporting handled.events
  ({ t with session := handled.session, phase }, handled.logs)

/-- Takes the lock to report these events, or ends if the task has been silenced. -/
def check (t : Task) (events : List Event) : Task :=
  if t.live then { t with phase := .publishing events } else t.finish

/-- Goes on to emit the events that are left, or gives the lock back if there are none. -/
def goOn (t : Task) (events : List Event) : Task :=
  { t with phase := if events.isEmpty then .waiting else .emitting events }

end Task

end SensorGateway
