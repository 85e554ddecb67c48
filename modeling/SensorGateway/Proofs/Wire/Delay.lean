import SensorGateway.Proofs.Wire.Segmentation

/-!
# How long a frame can be withheld

Noise in front of a frame can look like the beginning of a longer one, and then the frame has to wait
until the noise is found out.  It does not wait for long: what is kept between two chunks is less
than the frame that its first bytes declare (`Waiting`), and no frame is declared to be longer than
262 bytes.

So of a stream all but the last 261 bytes have been cut into pieces, and there is only one way to cut
them (`Segmentation.unique`).  A place where a frame is written, once it is among those bytes, is
either where a piece begins, and then the piece is that frame, or inside a piece of more than one
byte, which is a frame that was handed out before.
-/

namespace SensorGateway.Wire

/-! ## What is kept between two chunks -/

/-- A start marker is in front, and what it claims has not all arrived. -/
structure Waiting (buffer : Bytes) : Prop where
  starts : buffer.head? = some startMarker
  /-- The length has not arrived, or not all of the bytes that it declares. -/
  short : buffer.length < 4 ∨
    ∃ length, buffer[3]? = some length ∧ buffer.length < length.toNat + overhead

/-- What is undecided begins with a start marker, and waits for what this claims. -/
theorem waiting_of_undecided {buffer : Bytes} (h : Front.of buffer = .undecided) :
    Waiting buffer := by
  obtain ⟨hstart, hnone⟩ := Front.of_eq_undecided_iff.mp h
  refine ⟨hstart, ?_⟩
  unfold candidate? at hnone
  split at hnone
  next hlength =>
    left
    have hle : buffer.length ≤ 3 := List.getElem?_eq_none_iff.mp hlength
    omega
  next length hlength =>
    right
    split at hnone
    · cases hnone
    next hshort => exact ⟨length, hlength, Nat.not_le.mp hshort⟩

/-- Nothing waits that is as long as the longest frame. -/
theorem Waiting.length_le {buffer : Bytes} (h : Waiting buffer) : buffer.length ≤ 261 := by
  rcases h.short with hshort | ⟨length, -, hshort⟩
  · omega
  · have hlength := length.toNat_lt
    simp only [overhead] at hshort
    omega

namespace Reassembler

/-- What is parked is nothing, or it waits. -/
theorem Parked.nil_or_waiting {buffer : Bytes} (h : Parked buffer) :
    buffer = [] ∨ Waiting buffer := by
  rcases h with hnil | hundecided
  · exact Or.inl hnil
  · exact Or.inr (waiting_of_undecided hundecided)

/-- What is parked is shorter than the longest frame. -/
theorem Parked.length_le {buffer : Bytes} (h : Parked buffer) : buffer.length ≤ 261 := by
  rcases h.nil_or_waiting with rfl | hwaiting
  · exact Nat.zero_le 261
  · exact hwaiting.length_le

end Reassembler

/-! ## The pieces of a stream -/

/-- Where no frame starts, the front of the stream is none. -/
theorem Frameless.front_ne {stream : Bytes} (h : Frameless stream) (f : Frame) :
    Front.of stream ≠ .frame f := by
  intro hfront
  obtain ⟨hf, rest, rfl⟩ := Front.of_eq_frame_iff.mp hfront
  apply h f.toBytes.length f
  rw [List.take_left]
  exact Frame.parse_toBytes hf

/-- Every piece has bytes. -/
theorem Piece.bytes_ne_nil (p : Piece) : p.bytes ≠ [] := by
  cases p <;> exact List.cons_ne_nil _ _

namespace Segmentation

variable {stream buffer : Bytes} {pieces others : List Piece} {p q : Piece}

/-- Behind its first piece the stream is cut in the same way. -/
theorem exists_of_cons (h : Segmentation stream (p :: pieces) buffer) :
    ∃ rest, stream = p.bytes ++ rest ∧ Segmentation rest pieces buffer := by
  refine ⟨pieces.flatMap Piece.bytes ++ buffer, ?_, ?_⟩
  · rw [← List.append_assoc]
    exact h.joined
  · exact
      { joined := rfl
        parsed := fun f hf => h.parsed f (List.mem_cons_of_mem p hf)
        skipped := fun before b behind heq => h.skipped (p :: before) b behind (by rw [heq]; rfl)
        kept := h.kept
        waits := h.waits }

/-- So it is behind the first few. -/
theorem drop {before : List Piece} (h : Segmentation stream (before ++ pieces) buffer) :
    Segmentation (stream.drop (before.flatMap Piece.bytes).length) pieces buffer := by
  induction before generalizing stream with
  | nil => exact h
  | cons p before ih =>
      obtain ⟨rest, rfl, hrest⟩ := h.exists_of_cons
      rw [List.flatMap_cons, List.length_append, ← List.drop_drop, List.drop_left]
      exact ih hrest

/-- Where the first piece is a frame, the front of the stream is this frame. -/
theorem front_of_frame {f : Frame} (h : Segmentation stream (.frame f :: pieces) buffer) :
    Front.of stream = .frame f := by
  obtain ⟨rest, rfl, -⟩ := h.exists_of_cons
  have hvalid : f.Valid := (Frame.parse_eq_ok_iff.mp (h.parsed f List.mem_cons_self)).1
  exact Front.of_eq_frame_iff.mpr ⟨hvalid, rest, rfl⟩

/-- Where the first piece is a skipped byte, the front of the stream is no frame. -/
theorem front_ne_of_skipped {b : UInt8} (h : Segmentation stream (.skipped b :: pieces) buffer)
    (f : Frame) : Front.of stream ≠ .frame f := by
  have hframeless := (h.skipped [] b pieces rfl).2
  rw [show stream = b :: (pieces.flatMap Piece.bytes ++ buffer) from h.joined]
  exact hframeless.front_ne f

/-- What the front of a stream amounts to says what its first piece is. -/
theorem head_eq (h : Segmentation stream (p :: pieces) buffer)
    (h' : Segmentation stream (q :: others) buffer) : p = q := by
  cases p with
  | frame f =>
      cases q with
      | frame g =>
          have hsame := h.front_of_frame.symm.trans h'.front_of_frame
          rw [Front.frame.inj hsame]
      | skipped c => exact absurd h.front_of_frame (h'.front_ne_of_skipped f)
  | skipped b =>
      cases q with
      | frame g => exact absurd h'.front_of_frame (h.front_ne_of_skipped g)
      | skipped c =>
          obtain ⟨rest, rfl, -⟩ := h.exists_of_cons
          obtain ⟨rest', heq, -⟩ := h'.exists_of_cons
          rw [(List.cons.inj heq).1]

/-- A stream of which all is kept cannot also be cut into pieces. -/
theorem not_nil_cons (h : Segmentation stream [] buffer)
    (h' : Segmentation stream (p :: pieces) buffer) : False := by
  have hnil : stream = buffer := h.joined
  have hcons := h'.joined
  rw [hnil, List.flatMap_cons, List.self_eq_append_left, List.append_eq_nil_iff] at hcons
  exact p.bytes_ne_nil hcons.1

/-- There is one way to cut a stream of which so much is kept. -/
theorem unique (h : Segmentation stream pieces buffer) (h' : Segmentation stream others buffer) :
    others = pieces := by
  induction pieces generalizing stream others with
  | nil =>
      cases others with
      | nil => rfl
      | cons q others => exact (h.not_nil_cons h').elim
  | cons p pieces ih =>
      cases others with
      | nil => exact (h'.not_nil_cons h).elim
      | cons q others =>
          obtain rfl : p = q := h.head_eq h'
          obtain ⟨rest, rfl, hrest⟩ := h.exists_of_cons
          obtain ⟨rest', heq, hrest'⟩ := h'.exists_of_cons
          rw [← List.append_cancel_left heq] at hrest'
          rw [ih hrest hrest']

end Segmentation

/-! ## Places in a stream -/

/-- The frame has been handed out from a place in the stream. -/
def HandedOutAt (pieces : List Piece) (place : Nat) (f : Frame) : Prop :=
  ∃ before behind, pieces = before ++ .frame f :: behind ∧
    (before.flatMap Piece.bytes).length = place

/-- Every place among the pieces belongs to one of them. -/
theorem exists_piece_at {pieces : List Piece} {place : Nat}
    (h : place < (pieces.flatMap Piece.bytes).length) :
    ∃ before p behind, pieces = before ++ p :: behind ∧
      (before.flatMap Piece.bytes).length ≤ place ∧
      place < (before.flatMap Piece.bytes).length + p.bytes.length := by
  induction pieces generalizing place with
  | nil => exact absurd h (Nat.not_lt_zero place)
  | cons p pieces ih =>
      rw [List.flatMap_cons, List.length_append] at h
      by_cases hfirst : place < p.bytes.length
      · refine ⟨[], p, pieces, rfl, Nat.zero_le place, ?_⟩
        simpa using hfirst
      · have hrest : place - p.bytes.length < (pieces.flatMap Piece.bytes).length := by omega
        obtain ⟨before, q, behind, rfl, hle, hlt⟩ := ih hrest
        refine ⟨p :: before, q, behind, rfl, ?_, ?_⟩
        · rw [List.flatMap_cons, List.length_append]
          omega
        · rw [List.flatMap_cons, List.length_append]
          omega

/-- A frame that is written among the pieces is one of them, or begins inside of one. -/
theorem Segmentation.handed_out {stream buffer : Bytes} {pieces : List Piece}
    (h : Segmentation stream pieces buffer) {before after : Bytes} {f : Frame} (hf : f.Valid)
    (hstream : stream = before ++ f.toBytes ++ after)
    (hplace : before.length < (pieces.flatMap Piece.bytes).length) :
    HandedOutAt pieces before.length f ∨
      ∃ place g, HandedOutAt pieces place g ∧ place < before.length ∧
        before.length < place + g.toBytes.length := by
  obtain ⟨front, p, behind, rfl, hle, hlt⟩ := exists_piece_at hplace
  rcases Nat.eq_or_lt_of_le hle with heq | hbefore
  · left
    have hdrop := h.drop
    have hwritten : stream.drop (front.flatMap Piece.bytes).length = f.toBytes ++ after := by
      rw [hstream, heq, List.append_assoc, List.drop_left]
    rw [hwritten] at hdrop
    have hfront : Front.of (f.toBytes ++ after) = .frame f :=
      Front.of_eq_frame_iff.mpr ⟨hf, after, rfl⟩
    cases p with
    | frame g =>
        have hsame := hfront.symm.trans hdrop.front_of_frame
        rw [Front.frame.inj hsame]
        exact ⟨front, behind, rfl, heq⟩
    | skipped b => exact absurd hfront (hdrop.front_ne_of_skipped f)
  · right
    cases p with
    | frame g => exact ⟨_, g, ⟨front, behind, rfl, rfl⟩, hbefore, hlt⟩
    | skipped b =>
        -- a skipped byte has no inside
        have hone : before.length < (front.flatMap Piece.bytes).length + 1 := hlt
        omega

namespace Reassembler

/-- **A frame is withheld for no longer than the longest frame takes.**  What waits between two
chunks is empty, or begins with a start marker and is shorter than what that claims, so it is never
more than 261 bytes.  Of a stream in any chunks, when 262 bytes have arrived from a place where a
frame is written, that frame has been handed out from there, or the place is inside a frame handed
out before; the places are those of the one way to cut the stream. -/
theorem handed_out_within_longest_frame :
    (∀ r, Reachable r → ∀ chunk,
      let buffer := (r.feed chunk).2.buffer
      (buffer = [] ∨ Waiting buffer) ∧ buffer.length ≤ 261) ∧
    ∀ chunks, ∃ pieces,
      (∀ others, Segmentation chunks.flatten others (feedAll {} chunks).2.buffer ↔
        others = pieces) ∧
      (feedAll {} chunks).1 = pieces.filterMap Piece.frame? ∧
      ∀ before f after, f.Valid → chunks.flatten = before ++ f.toBytes ++ after →
        262 ≤ (f.toBytes ++ after).length →
        HandedOutAt pieces before.length f ∨
          ∃ place g, HandedOutAt pieces place g ∧ place < before.length ∧
            before.length < place + g.toBytes.length := by
  constructor
  · intro r hr chunk buffer
    have hparked : Parked buffer := parked_drain (r.buffer ++ chunk)
    exact ⟨hparked.nil_or_waiting, hparked.length_le⟩
  · intro chunks
    have hfeed : feedAll {} chunks = drain chunks.flatten {} :=
      feedAll_of_parked (Or.inl rfl) chunks
    rw [hfeed]
    obtain ⟨pieces, hcut, hframes, -⟩ := exists_segmentation_drain chunks.flatten {}
    refine ⟨pieces, ?_, hframes, ?_⟩
    · intro others
      constructor
      · intro hother
        exact hcut.unique hother
      · rintro rfl
        exact hcut
    · intro before f after hf hstream hlong
      have hkept : (drain chunks.flatten {}).2.buffer.length ≤ 261 :=
        (parked_drain chunks.flatten).length_le
      have hjoined := congrArg List.length hcut.joined
      have htotal := congrArg List.length hstream
      rw [List.append_assoc] at htotal
      rw [List.length_append] at hjoined htotal
      exact hcut.handed_out hf hstream (by omega)

/-- A corrupt length byte claims all that follows, and the frame behind it comes as soon as the claim
is found out. -/
theorem handed_out_within_longest_frame_corrupt_length :
    let f : Frame := { register := 0x04, status := 0, payload := [0x0F, 0xA0], checksum := 0xFF4F }
    let chunks : List Bytes :=
      [[0xDD, 0x04, 0x00], [0xFF] ++ f.toBytes.take 5, f.toBytes.drop 5,
        List.replicate 253 0x11]
    Reachable (feed {} [0xDD, 0x04]).2 ∧
      (feed (feed {} [0xDD, 0x04]).2 [0x00, 0xFF]).2.buffer.length ≤ 261 ∧
      f.Valid ∧ chunks.flatten = [0xDD, 0x04, 0x00, 0xFF] ++ f.toBytes ++ List.replicate 253 0x11 ∧
      262 ≤ (f.toBytes ++ List.replicate 253 0x11).length ∧
      (feedAll {} chunks).1 = [f] ∧
      ∃ pieces, Segmentation chunks.flatten pieces (feedAll {} chunks).2.buffer ∧
        (HandedOutAt pieces 4 f ∨
          ∃ place g, HandedOutAt pieces place g ∧ place < 4 ∧ 4 < place + g.toBytes.length) := by
  intro f chunks
  obtain ⟨hbuffer, hstream⟩ := handed_out_within_longest_frame
  obtain ⟨pieces, hcut, -, hprompt⟩ := hstream chunks
  have hreachable : Reachable (feed {} [0xDD, 0x04]).2 := .feed _ .new
  have hf : f.Valid := ⟨by decide, by decide⟩
  have hsent : chunks.flatten
      = [0xDD, 0x04, 0x00, 0xFF] ++ f.toBytes ++ List.replicate 253 0x11 := by decide +kernel
  have hlong : 262 ≤ (f.toBytes ++ List.replicate 253 0x11).length := by
    rw [List.length_append, Frame.length_toBytes, List.length_replicate]
    decide
  have hout : (feedAll {} chunks).1 = [f] := by decide +kernel
  refine ⟨hreachable, (hbuffer _ hreachable _).2, hf, hsent, hlong, hout, pieces, ?_, ?_⟩
  · exact (hcut pieces).mpr rfl
  · exact hprompt [0xDD, 0x04, 0x00, 0xFF] f _ hf hsent hlong

end Reassembler

end SensorGateway.Wire
