import SensorGateway.Bus.Delivery

/-!
# Sinks within the program

`LogSink` writes deliveries to the log, `ChannelSink` hands them to a reader in the same program, and
`RecordingSink` keeps them, failing on demand, for whoever wants to watch a publisher at work.
-/

namespace SensorGateway

/-- Writes every delivery to the log. -/
structure LogSink where

instance : TopicSink LogSink where
  offer sink d :=
    { sink
      reception := .accepted
      logs :=
        [{ level := .info, source := .publisher, message := d.topic ++ ": " ++ d.payload.text }] }

/-- Hands deliveries to a reader that takes them when it likes. -/
structure ChannelSink where
  /-- How many deliveries can wait for the reader. -/
  capacity : Nat
  /-- The deliveries that wait. -/
  waiting : List Delivery
  /-- Whether the reader is there. -/
  connected : Bool

namespace ChannelSink

/-- A channel with room for so many deliveries, and at least for one. -/
def new (capacity : Nat) : ChannelSink where
  capacity := max capacity 1
  waiting := []
  connected := true

/-- The reader takes a delivery, if one waits. -/
def take (c : ChannelSink) : Option Delivery × ChannelSink :=
  match c.waiting with
  | [] => (none, c)
  | d :: rest => (some d, { c with waiting := rest })

/-- The reader goes away, and what waits with it. -/
def close (c : ChannelSink) : ChannelSink := { c with waiting := [], connected := false }

end ChannelSink

instance : TopicSink ChannelSink where
  offer c d :=
    if !c.connected then
      { sink := c, reception := .failed (.publish .receiverDropped), logs := [] }
    else if c.waiting.length < c.capacity then
      { sink := { c with waiting := c.waiting ++ [d] }, reception := .accepted, logs := [] }
    else { sink := c, reception := .blocked, logs := [] }

/-- How a recording sink behaves. -/
inductive RecordingMode
  | accepting
  | failing
  | breaking
  deriving DecidableEq, Repr

/-- Keeps what it is given. -/
structure RecordingSink where
  mode : RecordingMode := .accepting
  /-- How often it was offered a delivery. -/
  attempts : Nat := 0
  /-- What it took and has not yet been asked for. -/
  taken : List Delivery := []

instance : TopicSink RecordingSink where
  offer s d :=
    let s := { s with attempts := s.attempts + 1 }
    match s.mode with
    | .accepting => { sink := { s with taken := s.taken ++ [d] }, reception := .accepted, logs := [] }
    | .failing => { sink := s, reception := .failed (.publish .busDown), logs := [] }
    | .breaking => { sink := s, reception := .broken, logs := [] }

end SensorGateway
