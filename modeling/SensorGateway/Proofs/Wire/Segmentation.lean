import SensorGateway.Proofs.Wire.ChunkBoundaries

/-!
# Where the bytes of a stream go

Every byte of a stream ends in one of three places: in a frame that is handed out, on its own among
the skipped ones, or in the buffer.  A `Segmentation` is the stream cut up accordingly, with the
reason why each cut is right: the frames are valid, a skipped byte stands where no frame starts, and
of the buffer nothing can be taken until more bytes arrive.

The last two are what makes it a statement about frames that are *missed*.  A reassembler that kept
all bytes, or skipped them one by one, would lose no byte either.
-/

namespace SensorGateway.Wire

/-- What is taken from the front of a stream at a time. -/
inductive Piece
  /-- A frame that is handed out. -/
  | frame (f : Frame)
  /-- A single byte that is skipped. -/
  | skipped (b : UInt8)

namespace Piece

/-- The bytes of a piece. -/
def bytes : Piece → Bytes
  | frame f => f.toBytes
  | skipped b => [b]

/-- The frame of a piece. -/
def frame? : Piece → Option Frame
  | frame f => some f
  | skipped _ => none

/-- The byte of a piece that is skipped. -/
def skipped? : Piece → Option UInt8
  | frame _ => none
  | skipped b => some b

end Piece

/-- The bytes that are skipped, in order. -/
def skippedBytes (pieces : List Piece) : Bytes := pieces.filterMap Piece.skipped?

/-- The first byte of a stream may be skipped: it is no start marker, or it opens a complete
candidate that is refused. -/
def Skippable (stream : Bytes) : Prop :=
  stream.head? ≠ some startMarker ∨
    ∃ candidate, candidate? stream = some candidate ∧ ∃ e, Frame.parse candidate = .error e

/-- No valid frame starts at the first byte of a stream. -/
def Frameless (stream : Bytes) : Prop := ∀ n f, Frame.parse (stream.take n) ≠ .ok f

/-- A stream cut into pieces and what is left in the buffer. -/
structure Segmentation (stream : Bytes) (pieces : List Piece) (buffer : Bytes) : Prop where
  /-- No byte is lost, doubled or moved. -/
  joined : stream = pieces.flatMap Piece.bytes ++ buffer
  /-- What is handed out is a frame. -/
  parsed : ∀ f, Piece.frame f ∈ pieces → Frame.parse f.toBytes = .ok f
  /-- What is skipped is rightly skipped, seen from where it stands in the stream. -/
  skipped : ∀ before b behind, pieces = before ++ .skipped b :: behind →
    Skippable (b :: (behind.flatMap Piece.bytes ++ buffer)) ∧
      Frameless (b :: (behind.flatMap Piece.bytes ++ buffer))
  /-- What is kept does not start with a frame already, -/
  kept : Frameless buffer
  /-- and has to be kept: it is nothing, or the beginning of what can still become a frame. -/
  waits : Reassembler.Parked buffer

/-! ## Cutting one piece off -/

/-- What stands where there is noise or damage may be skipped. -/
theorem skippable_of_front {stream : Bytes}
    (h : Front.of stream = .noise ∨ Front.of stream = .damaged) : Skippable stream := by
  rcases h with h | h
  · exact Or.inl (Front.of_eq_noise_iff.mp h)
  · exact Or.inr (Front.of_eq_damaged_iff.mp h).2

/-- Where the front of a stream is no frame, none starts. -/
theorem frameless_of_front {stream : Bytes} (h : ∀ f, Front.of stream ≠ .frame f) :
    Frameless stream :=
  Front.parse_take_ne_ok h

namespace Segmentation

variable {stream buffer : Bytes} {pieces : List Piece}

/-- A stream of which nothing can be taken is kept as it is. -/
theorem of_parked (h : Reassembler.Parked buffer) : Segmentation buffer [] buffer where
  joined := rfl
  parsed _ hmem := absurd hmem List.not_mem_nil
  skipped before b behind heq := by simp at heq
  kept := by
    rcases h with rfl | h
    · have hnil : Front.of [] = .noise := Front.of_eq_noise_iff.mpr (by simp)
      exact frameless_of_front (by simp [hnil])
    · exact frameless_of_front (by simp [h])
  waits := h

/-- A frame in front of a stream is a piece of it. -/
theorem cons_frame {f : Frame} (hf : f.Valid) (h : Segmentation stream pieces buffer) :
    Segmentation (f.toBytes ++ stream) (.frame f :: pieces) buffer where
  joined := by rw [List.flatMap_cons, List.append_assoc, ← h.joined]; rfl
  parsed g hmem := by
    rcases List.mem_cons.mp hmem with heq | hmem
    · cases heq
      exact Frame.parse_toBytes hf
    · exact h.parsed g hmem
  skipped before b behind heq := by
    cases before with
    | nil => simp at heq
    | cons p before =>
        simp only [List.cons_append, List.cons.injEq] at heq
        exact h.skipped before b behind heq.2
  kept := h.kept
  waits := h.waits

/-- A byte in front of a stream that is noise or damage there is a piece of it. -/
theorem cons_skipped {b : UInt8}
    (hfront : Front.of (b :: stream) = .noise ∨ Front.of (b :: stream) = .damaged)
    (h : Segmentation stream pieces buffer) :
    Segmentation (b :: stream) (.skipped b :: pieces) buffer where
  joined := by rw [List.flatMap_cons, List.append_assoc, ← h.joined]; rfl
  parsed g hmem := by
    rcases List.mem_cons.mp hmem with heq | hmem
    · cases heq
    · exact h.parsed g hmem
  skipped before c behind heq := by
    cases before with
    | nil =>
        simp only [List.nil_append, List.cons.injEq, Piece.skipped.injEq] at heq
        obtain ⟨rfl, rfl⟩ := heq
        rw [← h.joined]
        refine ⟨skippable_of_front hfront, frameless_of_front fun f hframe => ?_⟩
        rw [hframe] at hfront
        rcases hfront with h | h <;> cases h
    | cons p before =>
        simp only [List.cons_append, List.cons.injEq] at heq
        exact h.skipped before c behind heq.2
  kept := h.kept
  waits := h.waits

end Segmentation

/-! ## The reassembler cuts like this -/

namespace ReassemblyStats

/-- The counters when these pieces have been taken as well. -/
def after (stats : ReassemblyStats) (pieces : List Piece) : ReassemblyStats where
  frames := stats.frames + (pieces.filterMap Piece.frame?).length
  rejected := stats.rejected + (skippedBytes pieces).count startMarker
  discarded := stats.discarded + (skippedBytes pieces).length

/-- A frame is counted as one. -/
theorem after_cons_frame (stats : ReassemblyStats) (f : Frame) (pieces : List Piece) :
    stats.after (.frame f :: pieces) = stats.frame.after pieces := by
  simp only [after, frame, skippedBytes, Piece.frame?, Piece.skipped?, List.filterMap_cons,
    List.length_cons]
  congr 1
  omega

/-- A skipped byte that is no start marker is counted as skipped only. -/
theorem after_cons_noise (stats : ReassemblyStats) {b : UInt8} (hb : b ≠ startMarker)
    (pieces : List Piece) : stats.after (.skipped b :: pieces) = stats.noise.after pieces := by
  simp only [after, noise, skippedBytes, Piece.frame?, Piece.skipped?, List.filterMap_cons,
    List.length_cons, List.count_cons_of_ne hb]
  congr 1
  omega

/-- A start marker that is skipped is counted as a rejected candidate, too. -/
theorem after_cons_damaged (stats : ReassemblyStats) (pieces : List Piece) :
    stats.after (.skipped startMarker :: pieces) = stats.damaged.after pieces := by
  simp only [after, damaged, skippedBytes, Piece.frame?, Piece.skipped?, List.filterMap_cons,
    List.length_cons, List.count_cons_self]
  congr 1 <;> omega

end ReassemblyStats

namespace Reassembler

/-- Draining a buffer cuts it into pieces, and counts them. -/
theorem exists_segmentation_drain (buffer : Bytes) (stats : ReassemblyStats) :
    ∃ pieces, Segmentation buffer pieces (drain buffer stats).2.buffer ∧
      (drain buffer stats).1 = pieces.filterMap Piece.frame? ∧
      (drain buffer stats).2.stats = stats.after pieces := by
  induction buffer using Front.induction generalizing stats with
  | nil =>
      rw [drain_nil]
      exact ⟨[], .of_parked (Or.inl rfl), rfl, rfl⟩
  | undecided buffer h =>
      rw [drain_of_undecided stats h]
      exact ⟨[], .of_parked (Or.inr h), rfl, rfl⟩
  | noise b rest h ih =>
      obtain ⟨pieces, hcut, hframes, hstats⟩ := ih stats.noise
      have hb : b ≠ startMarker := by simpa using Front.of_eq_noise_iff.mp h
      rw [drain_of_noise stats h]
      exact ⟨.skipped b :: pieces, hcut.cons_skipped (Or.inl h), hframes,
        by rw [hstats, ReassemblyStats.after_cons_noise stats hb]⟩
  | damaged b rest h ih =>
      obtain ⟨pieces, hcut, hframes, hstats⟩ := ih stats.damaged
      obtain rfl : b = startMarker := by simpa using (Front.of_eq_damaged_iff.mp h).1
      rw [drain_of_damaged stats h]
      exact ⟨.skipped startMarker :: pieces, hcut.cons_skipped (Or.inr h), hframes,
        by rw [hstats, ReassemblyStats.after_cons_damaged]⟩
  | frame f rest hf ih =>
      obtain ⟨pieces, hcut, hframes, hstats⟩ := ih stats.frame
      rw [drain_toBytes_append stats hf]
      exact ⟨.frame f :: pieces, hcut.cons_frame hf, by rw [hframes]; rfl,
        by rw [hstats, ReassemblyStats.after_cons_frame]⟩

/-- **Exact segmentation.**  A stream that arrives in any chunks at a new reassembler is cut into
the frames handed out, in order, skipped bytes, and the buffer, of which nothing can be taken yet; no
frame is missed, none is made up, and the counters count the frames, the skipped bytes and the start
markers among these. -/
theorem feedAll_segmentation (chunks : List Bytes) :
    ∃ pieces,
      Segmentation chunks.flatten pieces (feedAll {} chunks).2.buffer ∧
      (feedAll {} chunks).1 = pieces.filterMap Piece.frame? ∧
      (feedAll {} chunks).2.stats.frames = (feedAll {} chunks).1.length ∧
      (feedAll {} chunks).2.stats.discarded = (skippedBytes pieces).length ∧
      (feedAll {} chunks).2.stats.rejected = (skippedBytes pieces).count startMarker := by
  have hfeed : feedAll {} chunks = drain chunks.flatten {} :=
    feedAll_of_parked (Or.inl rfl) chunks
  rw [hfeed]
  obtain ⟨pieces, hcut, hframes, hstats⟩ := exists_segmentation_drain chunks.flatten {}
  refine ⟨pieces, hcut, hframes, ?_, ?_, ?_⟩
  · rw [hstats, hframes]
    exact Nat.zero_add _
  · rw [hstats]
    exact Nat.zero_add _
  · rw [hstats]
    exact Nat.zero_add _

end Reassembler

end SensorGateway.Wire
