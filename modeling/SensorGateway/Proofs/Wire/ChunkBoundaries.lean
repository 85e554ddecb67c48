import SensorGateway.Proofs.Wire.Front

/-!
# Chunk boundaries do not matter

How a radio cuts a stream into chunks says nothing about the stream, and the reassembler must not be
able to tell: what it hands out and what it is afterwards depend on the bytes alone
(`feedAll_eq_feed_flatten`).

The reason is the shape of a buffer between two chunks.  It is *parked*: empty, or with a front that
is undecided.  `drain` leaves a parked buffer, and everything that it decided before it stopped it
would have decided in the same way with more bytes in hand, because a verdict is final.  So draining
bytes and then what is left together with more bytes is draining all of them at once
(`drain_append`).
-/

namespace SensorGateway.Wire

/-- Induction along what the front of a buffer is judged to be, frame by frame and byte by byte. -/
@[elab_as_elim]
theorem Front.induction {motive : Bytes → Prop} (nil : motive [])
    (undecided : ∀ buffer, Front.of buffer = .undecided → motive buffer)
    (noise : ∀ b rest, Front.of (b :: rest) = .noise → motive rest → motive (b :: rest))
    (damaged : ∀ b rest, Front.of (b :: rest) = .damaged → motive rest → motive (b :: rest))
    (frame : ∀ (f : Frame) rest, f.Valid → motive rest → motive (f.toBytes ++ rest))
    (buffer : Bytes) : motive buffer := by
  induction hn : buffer.length using Nat.strongRecOn generalizing buffer with
  | ind n ih =>
    subst hn
    match buffer with
    | [] => exact nil
    | b :: rest =>
        cases hfront : Front.of (b :: rest) with
        | undecided => exact undecided _ hfront
        | noise => exact noise b rest hfront (ih _ (by simp) rest rfl)
        | damaged => exact damaged b rest hfront (ih _ (by simp) rest rfl)
        | frame f =>
            obtain ⟨hf, rest', heq⟩ := Front.of_eq_frame_iff.mp hfront
            rw [heq]
            refine frame f rest' hf (ih _ ?_ rest' rfl)
            rw [heq, List.length_append, Frame.length_toBytes, overhead]
            omega

namespace Reassembler

/-! ## Draining a buffer -/

variable (stats : ReassemblyStats)

/-- Without bytes there is nothing to drain. -/
@[simp] theorem drain_nil : drain [] stats = ([], { buffer := [], stats }) := by
  rw [drain]

/-- What is undecided stays in the buffer. -/
theorem drain_of_undecided {buffer : Bytes} (h : Front.of buffer = .undecided) :
    drain buffer stats = ([], { buffer, stats }) := by
  cases buffer with
  | nil => rw [drain_nil]
  | cons b rest => rw [drain, h]

/-- A byte of noise is dropped and counted. -/
theorem drain_of_noise {b : UInt8} {rest : Bytes} (h : Front.of (b :: rest) = .noise) :
    drain (b :: rest) stats = drain rest stats.noise := by
  rw [drain, h]

/-- The start marker of a damaged candidate is dropped and counted. -/
theorem drain_of_damaged {b : UInt8} {rest : Bytes} (h : Front.of (b :: rest) = .damaged) :
    drain (b :: rest) stats = drain rest stats.damaged := by
  rw [drain, h]

/-- A frame is handed out and counted. -/
theorem drain_toBytes_append {f : Frame} (hf : f.Valid) (rest : Bytes) :
    drain (f.toBytes ++ rest) stats
      = (f :: (drain rest stats.frame).1, (drain rest stats.frame).2) := by
  have hfront : Front.of (f.toBytes ++ rest) = .frame f :=
    Front.of_eq_frame_iff.mpr ⟨hf, rest, rfl⟩
  -- `drain` takes the first byte off before it drops the others
  obtain ⟨b, tail, hcons⟩ : ∃ b tail, f.toBytes = b :: tail := ⟨_, _, rfl⟩
  have htail : f.payload.length + overhead - 1 = tail.length := by
    have := f.length_toBytes
    rw [hcons, List.length_cons] at this
    omega
  rw [hcons, List.cons_append] at hfront ⊢
  rw [drain, hfront]
  simp only [htail, List.drop_left]

/-- The counters are kept beside, and decide nothing. -/
theorem drain_congr (buffer : Bytes) (stats stats' : ReassemblyStats) :
    (drain buffer stats).1 = (drain buffer stats').1 ∧
      (drain buffer stats).2.buffer = (drain buffer stats').2.buffer := by
  induction buffer using Front.induction generalizing stats stats' with
  | nil =>
      rw [drain_nil, drain_nil]
      exact ⟨rfl, rfl⟩
  | undecided buffer h =>
      rw [drain_of_undecided stats h, drain_of_undecided stats' h]
      exact ⟨rfl, rfl⟩
  | noise b rest h ih =>
      rw [drain_of_noise stats h, drain_of_noise stats' h]
      exact ih stats.noise stats'.noise
  | damaged b rest h ih =>
      rw [drain_of_damaged stats h, drain_of_damaged stats' h]
      exact ih stats.damaged stats'.damaged
  | frame f rest hf ih =>
      obtain ⟨hframes, hbuffer⟩ := ih stats.frame stats'.frame
      rw [drain_toBytes_append stats hf, drain_toBytes_append stats' hf]
      exact ⟨congrArg (f :: ·) hframes, hbuffer⟩

/-! ## Parked buffers -/

/-- Nothing can be taken from the buffer until more bytes arrive. -/
def Parked (buffer : Bytes) : Prop := buffer = [] ∨ Front.of buffer = .undecided

variable {stats}

/-- Of a parked buffer nothing is taken. -/
theorem Parked.drain {buffer : Bytes} (h : Parked buffer) :
    drain buffer stats = ([], { buffer, stats }) := by
  rcases h with rfl | h
  · exact drain_nil stats
  · exact drain_of_undecided stats h

/-- What has been drained is parked. -/
theorem parked_drain (buffer : Bytes) : Parked (drain buffer stats).2.buffer := by
  induction buffer using Front.induction generalizing stats with
  | nil => exact Or.inl (by rw [drain_nil])
  | undecided buffer h => exact Or.inr (by rw [drain_of_undecided stats h]; exact h)
  | noise b rest h ih => rw [drain_of_noise stats h]; exact ih
  | damaged b rest h ih => rw [drain_of_damaged stats h]; exact ih
  | frame f rest hf ih => rw [drain_toBytes_append stats hf]; exact ih

/-- Bytes that arrive later are drained behind what the earlier ones left. -/
theorem drain_append (buffer more : Bytes) :
    drain (buffer ++ more) stats =
      let first := drain buffer stats
      let later := drain (first.2.buffer ++ more) first.2.stats
      (first.1 ++ later.1, later.2) := by
  induction buffer using Front.induction generalizing stats with
  | nil => rw [drain_nil]; rfl
  | undecided buffer h => rw [drain_of_undecided stats h]; rfl
  | noise b rest h ih =>
      have hmore : Front.of (b :: (rest ++ more)) = .noise := by
        rw [← List.cons_append, Front.of_append (List.cons_ne_nil b rest) (by simp [h]), h]
      rw [List.cons_append, drain_of_noise stats hmore, drain_of_noise stats h, ih]
  | damaged b rest h ih =>
      have hmore : Front.of (b :: (rest ++ more)) = .damaged := by
        rw [← List.cons_append, Front.of_append (List.cons_ne_nil b rest) (by simp [h]), h]
      rw [List.cons_append, drain_of_damaged stats hmore, drain_of_damaged stats h, ih]
  | frame f rest hf ih =>
      rw [List.append_assoc, drain_toBytes_append stats hf, drain_toBytes_append stats hf, ih]
      rfl

/-! ## Chunks -/

/-- What comes of a chunk depends on the buffer, and not on the counters. -/
theorem feed_congr {r r' : Reassembler} (h : r.buffer = r'.buffer) (chunk : Bytes) :
    (r.feed chunk).1 = (r'.feed chunk).1 ∧ (r.feed chunk).2.buffer = (r'.feed chunk).2.buffer := by
  rw [feed, feed, h]
  exact drain_congr (r'.buffer ++ chunk) r.stats r'.stats

/-- Two chunks can be fed as one. -/
theorem feed_append (r : Reassembler) (chunk more : Bytes) :
    r.feed (chunk ++ more) =
      let first := r.feed chunk
      let later := first.2.feed more
      (first.1 ++ later.1, later.2) := by
  rw [feed, ← List.append_assoc]
  exact drain_append (r.buffer ++ chunk) more

/-- From a parked buffer on, all chunks can be fed as one. -/
theorem feedAll_of_parked {r : Reassembler} (hr : Parked r.buffer) (chunks : List Bytes) :
    r.feedAll chunks = r.feed chunks.flatten := by
  induction chunks generalizing r with
  | nil =>
      rw [List.flatten_nil, feed, List.append_nil, hr.drain]
      rfl
  | cons chunk chunks ih =>
      have hparked : Parked (r.feed chunk).2.buffer := parked_drain (r.buffer ++ chunk)
      rw [List.flatten_cons, feed_append]
      simp only [feedAll, ih hparked]

/-- The states that a new reassembler comes to. -/
inductive Reachable : Reassembler → Prop
  | new : Reachable {}
  | feed {r : Reassembler} (chunk : Bytes) : Reachable r → Reachable (r.feed chunk).2

/-- Between two chunks the buffer is parked. -/
theorem Reachable.parked {r : Reassembler} (hr : Reachable r) : Parked r.buffer := by
  cases hr with
  | new => exact Or.inl rfl
  | @feed r chunk _ => exact parked_drain (r.buffer ++ chunk)

/-- **Chunk boundaries do not matter.**  Whatever a reassembler has been through, chunks fed one
after another give the frames, the buffer and the counters that their concatenation gives at once.
-/
theorem feedAll_eq_feed_flatten {r : Reassembler} (hr : Reachable r) (chunks : List Bytes) :
    r.feedAll chunks = r.feed chunks.flatten :=
  feedAll_of_parked hr.parked chunks

/-- A frame behind noise and a false start, with its first bytes already received and the others cut
up, one cut being empty. -/
theorem feedAll_eq_feed_flatten_half_frame :
    Reachable (feed {} [0x12, 0xDD, 0x04, 0x00]).2 ∧
      (feed {} [0x12, 0xDD, 0x04, 0x00]).2.feedAll
          [[0x02, 0x0F], [], [0xA0, 0xFF, 0x4F, 0x77, 0xDD]]
        = (feed {} [0x12, 0xDD, 0x04, 0x00]).2.feed [0x02, 0x0F, 0xA0, 0xFF, 0x4F, 0x77, 0xDD] :=
  ⟨.feed _ .new, feedAll_eq_feed_flatten (.feed _ .new) _⟩

end Reassembler

end SensorGateway.Wire
