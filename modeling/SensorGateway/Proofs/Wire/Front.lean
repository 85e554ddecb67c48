import SensorGateway.Proofs.Wire.Frame
import SensorGateway.Wire.Reassembler

/-!
# What the front of a buffer amounts to

A start marker claims as many bytes as the fourth byte from it says: its *candidate*, which there is
once all of them have arrived.  `Front.of_eq` says that the verdict on a buffer depends on nothing
but its first byte and its candidate; looking for the end marker first is a short cut, since `parse`
refuses a candidate without one.

A candidate does not change when bytes arrive behind it, so a verdict once reached is final
(`Front.of_append`).  This is all that the theory of the reassembler needs to know about time.
-/

namespace SensorGateway.Wire

/-! ## Candidates -/

/-- The bytes at the front of a buffer that are as many as their fourth says, if all are there. -/
def candidate? (buffer : Bytes) : Option Bytes :=
  match buffer[3]? with
  | none => none
  | some length =>
      if length.toNat + overhead ≤ buffer.length then some (buffer.take (length.toNat + overhead))
      else none

/-- Bytes that are as many as their fourth says. -/
def Complete (bytes : Bytes) : Prop :=
  ∃ length, bytes[3]? = some length ∧ bytes.length = length.toNat + overhead

/-- A complete candidate is one whatever follows it. -/
theorem candidate?_append_of_complete {bytes : Bytes} (h : Complete bytes) (rest : Bytes) :
    candidate? (bytes ++ rest) = some bytes := by
  obtain ⟨length, hlength, htotal⟩ := h
  have hthree : (bytes ++ rest)[3]? = some length := by
    rw [List.getElem?_append_left (by simp only [overhead] at htotal; omega), hlength]
  have hle : bytes.length ≤ (bytes ++ rest).length := by
    rw [List.length_append]
    omega
  simp only [candidate?, hthree, ← htotal, if_pos hle, List.take_left]

/-- The candidate of a buffer is the complete one at its front. -/
theorem candidate?_eq_some_iff {buffer bytes : Bytes} :
    candidate? buffer = some bytes ↔ Complete bytes ∧ ∃ rest, buffer = bytes ++ rest := by
  constructor
  · intro h
    unfold candidate? at h
    split at h
    · cases h
    next length hlength =>
      split at h
      next hle =>
        cases h
        refine ⟨⟨length, ?_, ?_⟩, buffer.drop (length.toNat + overhead), ?_⟩
        · rw [List.getElem?_take_of_lt (by simp only [overhead]; omega), hlength]
        · rw [List.length_take]
          omega
        · rw [List.take_append_drop]
      · cases h
  · rintro ⟨hbytes, rest, rfl⟩
    exact candidate?_append_of_complete hbytes rest

/-- More bytes do not change the candidate. -/
theorem candidate?_append {buffer bytes : Bytes} (h : candidate? buffer = some bytes)
    (more : Bytes) : candidate? (buffer ++ more) = some bytes := by
  obtain ⟨hbytes, rest, rfl⟩ := candidate?_eq_some_iff.mp h
  rw [List.append_assoc]
  exact candidate?_append_of_complete hbytes _

/-- The bytes of a valid frame are a complete candidate. -/
theorem Frame.Valid.complete {f : Frame} (hf : f.Valid) : Complete f.toBytes := by
  refine ⟨f.layout.length, rfl, ?_⟩
  rw [Frame.length_toBytes]
  have hfits : f.payload.length = f.layout.length.toNat := hf.fits_layout
  omega

/-! ## The verdict -/

/-- A candidate that does not end with the end marker is refused for its markers. -/
theorem parse_error_of_last_ne {bytes : Bytes} (h : Complete bytes)
    (hlast : bytes[bytes.length - 1]? ≠ some endMarker) :
    Frame.parse bytes = .error .badMarkers := by
  obtain ⟨length, hlength, htotal⟩ := h
  obtain ⟨l, hl, -, rfl⟩ := exists_layout hlength htotal
  rw [l.length_bytes, l.getElem?_last] at hlast
  rw [Frame.parse_layout hl, if_pos (Or.inr fun h => hlast (by rw [h]))]

namespace Front

/-- The verdict depends on the first byte and on the candidate alone. -/
theorem of_eq (buffer : Bytes) :
    Front.of buffer =
      if buffer.head? ≠ some startMarker then .noise
      else
        match candidate? buffer with
        | none => .undecided
        | some bytes =>
            match Frame.parse bytes with
            | .ok f => .frame f
            | .error _ => .damaged := by
  unfold Front.of
  by_cases hhead : buffer.head? ≠ some startMarker
  · rw [if_pos hhead, if_pos hhead]
  rw [if_neg hhead, if_neg hhead]
  cases hlength : buffer[3]? with
  | none => simp only [candidate?, hlength]
  | some length =>
      by_cases hle : length.toNat + overhead ≤ buffer.length
      · have hcandidate : candidate? buffer = some (buffer.take (length.toNat + overhead)) := by
          simp only [candidate?, hlength, if_pos hle]
        simp only [hcandidate, if_neg (Nat.not_lt.mpr hle)]
        split
        next hlast =>
          have hcomplete := (candidate?_eq_some_iff.mp hcandidate).1
          rw [parse_error_of_last_ne hcomplete]
          rw [List.length_take, Nat.min_eq_left hle,
            List.getElem?_take_of_lt (by simp only [overhead]; omega)]
          exact hlast
        · rfl
      · simp only [candidate?, hlength, if_neg hle, if_pos (Nat.not_le.mp hle)]

/-- There is noise at the front if no start marker is there. -/
theorem of_eq_noise_iff {buffer : Bytes} :
    Front.of buffer = .noise ↔ buffer.head? ≠ some startMarker := by
  rw [of_eq]
  grind

/-- The front is undecided if a start marker is there and its candidate is not complete. -/
theorem of_eq_undecided_iff {buffer : Bytes} :
    Front.of buffer = .undecided ↔
      buffer.head? = some startMarker ∧ candidate? buffer = none := by
  rw [of_eq]
  grind

/-- The front is damaged if a start marker is there and its candidate is refused. -/
theorem of_eq_damaged_iff {buffer : Bytes} :
    Front.of buffer = .damaged ↔
      buffer.head? = some startMarker ∧
        ∃ bytes, candidate? buffer = some bytes ∧ ∃ e, Frame.parse bytes = .error e := by
  rw [of_eq]
  grind

/-- The front is a frame if the bytes of one, which is valid, are there. -/
theorem of_eq_frame_iff {buffer : Bytes} {f : Frame} :
    Front.of buffer = .frame f ↔ f.Valid ∧ ∃ rest, buffer = f.toBytes ++ rest := by
  constructor
  · intro h
    have hparse : ∃ bytes, candidate? buffer = some bytes ∧ Frame.parse bytes = .ok f := by
      rw [of_eq] at h
      grind
    obtain ⟨bytes, hcandidate, hok⟩ := hparse
    obtain ⟨-, rest, rfl⟩ := candidate?_eq_some_iff.mp hcandidate
    obtain ⟨hf, rfl⟩ := Frame.parse_eq_ok_iff.mp hok
    exact ⟨hf, rest, rfl⟩
  · rintro ⟨hf, rest, rfl⟩
    have hhead : ¬ (f.toBytes ++ rest).head? ≠ some startMarker := by simp [Frame.toBytes]
    rw [of_eq, if_neg hhead, candidate?_append_of_complete hf.complete]
    simp only [Frame.parse_toBytes hf]

/-- A verdict stands whatever arrives behind the bytes on which it was reached. -/
theorem of_append {buffer : Bytes} (hne : buffer ≠ []) (h : Front.of buffer ≠ .undecided)
    (more : Bytes) : Front.of (buffer ++ more) = Front.of buffer := by
  have hhead : (buffer ++ more).head? = buffer.head? := by
    obtain ⟨b, rest, rfl⟩ := List.exists_cons_of_ne_nil hne
    rfl
  rw [of_eq, of_eq, hhead]
  by_cases hstart : buffer.head? = some startMarker
  · cases hcandidate : candidate? buffer with
    | none => exact absurd (of_eq_undecided_iff.mpr ⟨hstart, hcandidate⟩) h
    | some bytes => rw [candidate?_append hcandidate]
  · rw [if_pos hstart, if_pos hstart]

/-- A frame starts at the front only where the verdict is that frame. -/
theorem parse_take_ne_ok {buffer : Bytes} (h : ∀ f, Front.of buffer ≠ .frame f) (n : Nat)
    (f : Frame) : Frame.parse (buffer.take n) ≠ .ok f := by
  intro hok
  obtain ⟨hf, htake⟩ := Frame.parse_eq_ok_iff.mp hok
  refine h f (of_eq_frame_iff.mpr ⟨hf, buffer.drop n, ?_⟩)
  rw [← htake, List.take_append_drop]

end Front

end SensorGateway.Wire
