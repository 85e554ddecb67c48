import SensorGateway.Wire.Frame

/-!
# Frames from a stream of chunks

A battery's answers arrive cut into chunks at arbitrary places, with bytes lost, repeated or added
in between.  The reassembler keeps the bytes that do not yet decide anything and hands out each
complete, valid frame that it finds.

It looks at the front of its buffer only.  A byte that is no start marker is *noise*.  A start
marker is believed until the length that it declares has arrived; if no end marker stands there, or
the frame found is not valid, the marker is *damaged*: it alone is skipped, and the search goes on
directly behind it.  So an end marker inside a payload never cuts a frame short, and a frame hidden
behind a false start is still found.
-/

namespace SensorGateway.Wire

/-- Counters over the life of a reassembler. -/
structure ReassemblyStats where
  /-- Frames handed out. -/
  frames : Nat := 0
  /-- Start markers that opened no valid frame. -/
  rejected : Nat := 0
  /-- Bytes skipped, those markers included. -/
  discarded : Nat := 0
  deriving DecidableEq, Repr

/-- What the front of a non-empty buffer amounts to. -/
inductive Front
  /-- More bytes are needed to tell. -/
  | undecided
  /-- A byte that starts no frame. -/
  | noise
  /-- A start marker that opens no valid frame. -/
  | damaged
  /-- A valid frame. -/
  | frame (f : Frame)
  deriving DecidableEq, Repr

/-- Judges the front of a buffer. -/
def Front.of (buffer : Bytes) : Front :=
  if buffer.head? ≠ some startMarker then .noise
  else
    match buffer[3]? with
    | none => .undecided
    | some length =>
        let total := length.toNat + overhead
        if buffer.length < total then .undecided
        else if buffer[total - 1]? ≠ some endMarker then .damaged
        else
          match Frame.parse (buffer.take total) with
          | .ok f => .frame f
          | .error _ => .damaged

/-- A reassembler: the bytes that wait for more, and its counters. -/
structure Reassembler where
  /-- The bytes received and neither handed out nor skipped. -/
  buffer : Bytes := []
  /-- The counters. -/
  stats : ReassemblyStats := {}
  deriving DecidableEq, Repr

namespace ReassemblyStats

/-- One more byte of noise. -/
def noise (s : ReassemblyStats) : ReassemblyStats :=
  { s with discarded := s.discarded + 1 }

/-- One more damaged start marker. -/
def damaged (s : ReassemblyStats) : ReassemblyStats :=
  { s with rejected := s.rejected + 1, discarded := s.discarded + 1 }

/-- One more frame. -/
def frame (s : ReassemblyStats) : ReassemblyStats :=
  { s with frames := s.frames + 1 }

end ReassemblyStats

namespace Reassembler

/-- Takes from a buffer all that its front decides, until it is empty or undecided: the frames found
in order, and what is left. -/
def drain (buffer : Bytes) (stats : ReassemblyStats) : List Frame × Reassembler :=
  match buffer with
  | [] => ([], { buffer := [], stats })
  | b :: rest =>
      match Front.of (b :: rest) with
      | .undecided => ([], { buffer := b :: rest, stats })
      | .noise => drain rest stats.noise
      | .damaged => drain rest stats.damaged
      | .frame f =>
          let (frames, left) := drain (rest.drop (f.payload.length + overhead - 1)) stats.frame
          (f :: frames, left)
  termination_by buffer.length

/-- Takes in a chunk and hands out the frames that it completes. -/
def feed (r : Reassembler) (chunk : Bytes) : List Frame × Reassembler :=
  drain (r.buffer ++ chunk) r.stats

/-- Takes in several chunks one after another. -/
def feedAll (r : Reassembler) : List Bytes → List Frame × Reassembler
  | [] => ([], r)
  | chunk :: chunks =>
      let (frames, r') := r.feed chunk
      let (later, r'') := r'.feedAll chunks
      (frames ++ later, r'')

/-- The number of bytes that wait for the rest of a frame. -/
def buffered (r : Reassembler) : Nat := r.buffer.length

end Reassembler

end SensorGateway.Wire
