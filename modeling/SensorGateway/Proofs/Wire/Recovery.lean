import SensorGateway.Proofs.Wire.ChunkBoundaries

/-!
# Frames survive noise around them

A stream made of whole frames comes out as these frames, also when there are bytes between them that
belong to none.  Two kinds of such bytes are harmless wherever they stand: bytes without a start
marker, and a damaged frame that is as long as it says and has no further start marker.  After
either the reassembler is back in step (`drain_noise_append`, `drain_broken_append`), so the order
of frames, noise and damage does not matter.

What the good frames carry does not matter at all: markers in a payload are never looked at, because
the length says where the frame ends.
-/

namespace SensorGateway.Wire

/-- A damaged frame that cannot be taken for the beginning of another one. -/
structure Broken (bytes : Bytes) : Prop where
  starts : bytes.head? = some startMarker
  /-- It is as long as its length byte says. -/
  complete : Complete bytes
  /-- Its start marker is the only one. -/
  alone : startMarker ∉ bytes.tail
  refused : ∃ e, Frame.parse bytes = .error e

/-- A part of a stream. -/
inductive Segment
  /-- A frame that somebody has built. -/
  | good (f : Frame) (built : ∃ register status payload, Frame.wrap register status payload = .ok f)
  /-- Bytes that start nothing. -/
  | noise (bytes : Bytes) (clean : startMarker ∉ bytes)
  /-- A damaged frame. -/
  | damaged (bytes : Bytes) (broken : Broken bytes)

namespace Segment

/-- The segment as it is sent. -/
def bytes : Segment → Bytes
  | good f _ => f.toBytes
  | noise bytes _ => bytes
  | damaged bytes _ => bytes

/-- The frame of a good segment. -/
def frame? : Segment → Option Frame
  | good f _ => some f
  | noise _ _ => none
  | damaged _ _ => none

/-- Whether the segment is a damaged frame. -/
def isDamaged : Segment → Bool
  | good _ _ => false
  | noise _ _ => false
  | damaged _ _ => true

/-- The counters when this segment has been taken as well. -/
def count (stats : ReassemblyStats) : Segment → ReassemblyStats
  | good _ _ => stats.frame
  | noise bytes _ => { stats with discarded := stats.discarded + bytes.length }
  | damaged bytes _ =>
      { stats with rejected := stats.rejected + 1, discarded := stats.discarded + bytes.length }

end Segment

namespace Reassembler

/-! ## One segment in front of a stream -/

/-- Bytes without a start marker are discarded together. -/
theorem drain_noise_append {bytes : Bytes} (clean : startMarker ∉ bytes) (stats : ReassemblyStats)
    (rest : Bytes) :
    drain (bytes ++ rest) stats
      = drain rest { stats with discarded := stats.discarded + bytes.length } := by
  induction bytes generalizing stats with
  | nil => rfl
  | cons b bytes ih =>
      obtain ⟨hb, hbytes⟩ : startMarker ≠ b ∧ startMarker ∉ bytes := by simpa using clean
      have hfront : Front.of (b :: (bytes ++ rest)) = .noise :=
        Front.of_eq_noise_iff.mpr (by simpa using hb.symm)
      rw [List.cons_append, drain_of_noise stats hfront, ih hbytes]
      simp only [ReassemblyStats.noise, List.length_cons]
      congr 2
      omega

/-- A broken frame is rejected, and its bytes are discarded. -/
theorem drain_broken_append {bytes : Bytes} (broken : Broken bytes) (stats : ReassemblyStats)
    (rest : Bytes) :
    drain (bytes ++ rest) stats
      = drain rest
          { stats with
            rejected := stats.rejected + 1
            discarded := stats.discarded + bytes.length } := by
  obtain ⟨tail, rfl⟩ : ∃ tail, bytes = startMarker :: tail :=
    List.head?_eq_some_iff.mp broken.starts
  have halone : startMarker ∉ tail := broken.alone
  -- the verdict on the marker is the refusal, and behind the marker there is only noise
  have hfront : Front.of (startMarker :: (tail ++ rest)) = .damaged :=
    Front.of_eq_damaged_iff.mpr
      ⟨rfl, _, candidate?_append_of_complete broken.complete rest, broken.refused⟩
  rw [List.cons_append, drain_of_damaged stats hfront, drain_noise_append halone]
  simp only [ReassemblyStats.damaged, List.length_cons]
  congr 2
  omega

/-- A segment is drained by itself, whatever follows it. -/
theorem drain_segment_append (segment : Segment) (stats : ReassemblyStats) (rest : Bytes) :
    drain (segment.bytes ++ rest) stats =
      let later := drain rest (segment.count stats)
      (segment.frame?.toList ++ later.1, later.2) := by
  cases segment with
  | good f built => exact drain_toBytes_append stats (Frame.valid_iff_wrap.mpr built) rest
  | noise bytes clean => exact drain_noise_append clean stats rest
  | damaged bytes broken => exact drain_broken_append broken stats rest

/-! ## Whole streams -/

/-- Segments are drained one after another, and nothing is left. -/
theorem drain_segments (segments : List Segment) (stats : ReassemblyStats) :
    drain (segments.flatMap Segment.bytes) stats =
      (segments.filterMap Segment.frame?,
        { buffer := [], stats := segments.foldl Segment.count stats }) := by
  induction segments generalizing stats with
  | nil => exact drain_nil stats
  | cons segment segments ih =>
      rw [List.flatMap_cons, drain_segment_append, ih]
      cases segment <;> rfl

/-- Of several segments the damaged ones are rejected. -/
theorem rejected_foldl_count (segments : List Segment) (stats : ReassemblyStats) :
    (segments.foldl Segment.count stats).rejected
      = stats.rejected + segments.countP Segment.isDamaged := by
  induction segments generalizing stats with
  | nil => rfl
  | cons segment segments ih =>
      rw [List.foldl_cons, ih, List.countP_cons]
      cases segment <;> simp [Segment.count, Segment.isDamaged, ReassemblyStats.frame]
      omega

/-- **Frames survive noise around them.**  A stream of frames, noise and damaged frames in any
order, cut into any chunks and fed to a reassembler with nothing in its buffer, comes out as the
frames in their order; nothing is left, and each damaged frame has been rejected once. -/
theorem feedAll_segments {r : Reassembler} (hr : r.buffer = []) (segments : List Segment)
    {chunks : List Bytes} (hchunks : chunks.flatten = segments.flatMap Segment.bytes) :
    (r.feedAll chunks).1 = segments.filterMap Segment.frame? ∧
      (r.feedAll chunks).2.buffer = [] ∧
      (r.feedAll chunks).2.stats.rejected
        = r.stats.rejected + segments.countP Segment.isDamaged := by
  have hfeed : r.feedAll chunks = drain (segments.flatMap Segment.bytes) r.stats := by
    rw [feedAll_of_parked (Or.inl hr), hchunks, feed, hr, List.nil_append]
  rw [hfeed, drain_segments]
  exact ⟨rfl, rfl, rejected_foldl_count segments r.stats⟩

/-- Noise, a frame with a wrong checksum and a frame with both markers in its payload, in three
chunks. -/
theorem feedAll_segments_markers_in_payload :
    let bad : Bytes := [0xDD, 0x04, 0x00, 0x02, 0x0F, 0xA0, 0xFF, 0x50, 0x77]
    let frame : Frame :=
      { register := 0x05, status := 0, payload := [0xDD, 0x77], checksum := 0xFEAA }
    let chunks : List Bytes :=
      [[0x77, 0x00, 0xDD, 0x04, 0x00], [0x02, 0x0F, 0xA0, 0xFF, 0x50, 0x77, 0xDD, 0x05],
        [0x00, 0x02, 0xDD, 0x77, 0xFE, 0xAA, 0x77]]
    startMarker ∉ ([0x77, 0x00] : Bytes) ∧ Broken bad ∧ Frame.wrap 0x05 0 [0xDD, 0x77] = .ok frame ∧
      chunks.flatten = [0x77, 0x00] ++ bad ++ frame.toBytes ∧
      (feedAll {} chunks).1 = [frame] ∧ (feedAll {} chunks).2.buffer = [] ∧
      (feedAll {} chunks).2.stats.rejected = 1 := by
  intro bad frame chunks
  have hclean : startMarker ∉ ([0x77, 0x00] : Bytes) := by decide
  have hbroken : Broken bad := ⟨rfl, ⟨0x02, rfl, rfl⟩, by decide, _, rfl⟩
  have hbuilt : Frame.wrap 0x05 0 [0xDD, 0x77] = .ok frame := rfl
  have hsent : chunks.flatten = [0x77, 0x00] ++ bad ++ frame.toBytes := by decide
  refine ⟨hclean, hbroken, hbuilt, hsent, ?_⟩
  exact feedAll_segments rfl
    [.noise [0x77, 0x00] hclean, .damaged bad hbroken, .good frame ⟨0x05, 0, [0xDD, 0x77], hbuilt⟩]
    (by rw [hsent]; rfl)

end Reassembler

end SensorGateway.Wire
