import SensorGateway.Wire.Frame

/-!
# What bytes are a frame

`Frame.parse` reads by offset from both ends of its bytes, while `Frame.toBytes` writes from front
to back.  Both are compared with one picture: `Layout` is a frame taken apart into its seven fields,
with no condition on any of them.  Bytes whose fourth says how many there are can always be pictured
(`exists_layout`), and on a picture `parse` is three comparisons (`parse_layout`).

So what `parse` accepts is exactly what `toBytes` makes of a *valid* frame, one whose payload fits
and whose checksum is that of the covered bytes (`parse_eq_ok_iff`), and the valid frames are those
that `Frame.wrap` builds (`valid_iff_wrap`).
-/

namespace SensorGateway.Wire

/-! ## The fields of a frame -/

/-- The fields of a frame in the order in which they are sent, none of them checked. -/
structure Layout where
  first : UInt8
  register : UInt8
  status : UInt8
  length : UInt8
  payload : Bytes
  stored : UInt16
  last : UInt8

namespace Layout

/-- The bytes of the fields. -/
def bytes (l : Layout) : Bytes :=
  [l.first, l.register, l.status, l.length] ++ l.payload ++ Word.toBytes l.stored ++ [l.last]

/-- The length field says how long the payload is. -/
def Fits (l : Layout) : Prop := l.payload.length = l.length.toNat

/-- The frame that has these fields. -/
def frame (l : Layout) : Frame where
  register := l.register
  status := l.status
  payload := l.payload
  checksum := l.stored

/-- A layout takes up its payload and what is around it. -/
@[simp] theorem length_bytes (l : Layout) : l.bytes.length = l.payload.length + overhead := by
  simp [bytes, Word.toBytes, overhead]

/-- The length stands in the fourth byte. -/
theorem getElem?_three (l : Layout) : l.bytes[3]? = some l.length := rfl

/-- The last byte of a layout stands at its end. -/
theorem getElem?_last (l : Layout) : l.bytes[l.payload.length + overhead - 1]? = some l.last := by
  have h : l.payload.length + overhead - 1
      = ([l.first, l.register, l.status, l.length] ++ l.payload
          ++ Word.toBytes l.stored).length := by
    simp [Word.toBytes, overhead]
  rw [h, bytes, List.getElem?_concat_length]

/-- The checksum stands behind the payload. -/
theorem wordAt_stored (l : Layout) :
    (l.bytes.wordAt (l.payload.length + 4) : Except FrameError UInt16) = .ok l.stored := by
  have split : l.bytes = ([l.first, l.register, l.status, l.length] ++ l.payload)
      ++ (Word.toBytes l.stored ++ [l.last]) := by simp [bytes]
  have hh : l.bytes[l.payload.length + 4]? = some (Word.high l.stored) := by
    rw [split, List.getElem?_append_right (by simp)]
    simp [Word.toBytes]
  have hl : l.bytes[l.payload.length + 4 + 1]? = some (Word.low l.stored) := by
    rw [split, List.getElem?_append_right (by simp)]
    simp [Word.toBytes]
  rw [Bytes.wordAt_eq_ok _ hh hl, Word.ofBytes_high_low]

/-- The checksum covers status, length and payload. -/
theorem slice_covered (l : Layout) :
    (l.bytes.slice 2 (l.payload.length + 4) : Except FrameError Bytes)
      = .ok (l.status :: l.length :: l.payload) := by
  rw [Bytes.slice_eq_ok _ (by omega) (by simp [overhead])]
  simp [bytes]

/-- The payload stands behind the length. -/
theorem slice_payload (l : Layout) :
    (l.bytes.slice 4 (l.payload.length + 4) : Except FrameError Bytes) = .ok l.payload := by
  rw [Bytes.slice_eq_ok _ (by omega) (by simp [overhead])]
  simp [bytes]

end Layout

/-- Bytes as many as their fourth says have all the fields of a frame. -/
theorem exists_layout {bytes : Bytes} {length : UInt8} (hlength : bytes[3]? = some length)
    (htotal : bytes.length = length.toNat + overhead) :
    ∃ l : Layout, l.Fits ∧ l.length = length ∧ l.bytes = bytes := by
  match bytes, hlength, htotal with
  | first :: register :: status :: n :: rest, hlength, htotal =>
      obtain rfl : n = length := by simpa using hlength
      have hrest : rest.length = n.toNat + 3 := by simpa [overhead] using htotal
      -- the checksum and the end marker are the last three bytes
      have htail : (rest.drop n.toNat).length = 3 := by simp [hrest]
      match h : rest.drop n.toNat, htail with
      | [high, low, last], _ =>
          refine ⟨⟨first, register, status, n, rest.take n.toNat, Word.ofBytes high low, last⟩,
            ?_, rfl, ?_⟩
          · simp only [Layout.Fits, List.length_take]
            omega
          · have hjoin : rest.take n.toNat ++ [high, low, last] = rest := by
              rw [← h, List.take_append_drop]
            simp [Layout.bytes, Word.toBytes, hjoin]

/-! ## Valid frames -/

namespace Frame

/-- The payload fits a frame and the checksum is that of the covered bytes. -/
structure Valid (f : Frame) : Prop where
  payload_le : f.payload.length ≤ maxPayload
  checksum_eq : f.checksum = Checksum.compute (covered f.status f.payload)

/-- The fields of a frame as it is sent. -/
def layout (f : Frame) : Layout where
  first := startMarker
  register := f.register
  status := f.status
  length := UInt8.ofNat f.payload.length
  payload := f.payload
  stored := f.checksum
  last := endMarker

/-- The bytes of a frame are those of its layout. -/
theorem bytes_layout (f : Frame) : f.layout.bytes = f.toBytes := rfl

/-- The layout of a valid frame fits. -/
theorem Valid.fits_layout {f : Frame} (hf : f.Valid) : f.layout.Fits := by
  have hle : f.payload.length ≤ 255 := hf.payload_le
  simp only [Layout.Fits, layout, UInt8.toNat_ofNat']
  omega

/-- A frame takes up its payload and what is around it. -/
@[simp] theorem length_toBytes (f : Frame) : f.toBytes.length = f.payload.length + overhead := by
  rw [← bytes_layout, Layout.length_bytes]
  rfl

/-- A frame is valid if it has been made by wrapping a payload, and only then. -/
theorem valid_iff_wrap {f : Frame} :
    f.Valid ↔ ∃ register status payload, Frame.wrap register status payload = .ok f := by
  constructor
  · intro hf
    refine ⟨f.register, f.status, f.payload, ?_⟩
    rw [wrap, if_pos hf.payload_le, ← hf.checksum_eq]
  · rintro ⟨register, status, payload, h⟩
    unfold wrap at h
    split at h
    next hle =>
      cases h
      exact ⟨hle, rfl⟩
    next => cases h

/-- On bytes that are as many as they say, `parse` compares the markers and then the checksum. -/
theorem parse_layout {l : Layout} (hl : l.Fits) :
    parse l.bytes =
      if l.first ≠ startMarker ∨ l.last ≠ endMarker then .error .badMarkers
      else if l.stored ≠ Checksum.compute (l.status :: l.length :: l.payload) then
        .error (.checksumMismatch (Checksum.compute (l.status :: l.length :: l.payload)) l.stored)
      else .ok l.frame := by
  have hfirst : l.bytes[0]? = some l.first := rfl
  have hregister : l.bytes[1]? = some l.register := rfl
  have hstatus : l.bytes[2]? = some l.status := rfl
  have hlast : l.bytes[l.bytes.length - 1]? = some l.last := by
    rw [l.length_bytes]
    exact l.getElem?_last
  have hlong : ¬ l.bytes.length < overhead := by simp
  have htotal : ¬ l.bytes.length ≠ l.length.toNat + overhead := by
    rw [l.length_bytes, hl]
    simp
  have hword := l.wordAt_stored
  have hcovered := l.slice_covered
  have hpayload := l.slice_payload
  rw [hl] at hword hcovered hpayload
  unfold parse
  rw [if_neg hlong, Bytes.byteAt_eq_ok _ hfirst, Bytes.byteAt_eq_ok _ hlast,
    Bytes.byteAt_eq_ok _ l.getElem?_three, Bytes.byteAt_eq_ok _ hregister,
    Bytes.byteAt_eq_ok _ hstatus]
  simp only [bind, Except.bind, if_neg htotal, hword, hcovered, hpayload]
  rfl

/-- A valid frame is parsed from its bytes. -/
theorem parse_toBytes {f : Frame} (hf : f.Valid) : parse f.toBytes = .ok f := by
  have hsum : f.layout.stored
      = Checksum.compute (f.layout.status :: f.layout.length :: f.layout.payload) := hf.checksum_eq
  rw [← bytes_layout, parse_layout hf.fits_layout, if_neg (by simp [layout]),
    if_neg (by simp [hsum])]
  rfl

/-- Fewer bytes than a frame without payload has are refused. -/
theorem parse_of_short {bytes : Bytes} (h : bytes.length < overhead) :
    parse bytes = .error (.tooShort bytes.length) := by
  rw [parse, if_pos h]

/-- On bytes that are not as many as they say, `parse` compares the markers and then fails. -/
theorem parse_of_length_ne {bytes : Bytes} {first last length : UInt8}
    (hlong : overhead ≤ bytes.length) (hfirst : bytes[0]? = some first)
    (hlast : bytes[bytes.length - 1]? = some last) (hlength : bytes[3]? = some length)
    (hne : bytes.length ≠ length.toNat + overhead) :
    parse bytes =
      if first ≠ startMarker ∨ last ≠ endMarker then .error .badMarkers
      else .error (.lengthMismatch length.toNat bytes.length) := by
  unfold parse
  rw [if_neg (by omega), Bytes.byteAt_eq_ok bytes hfirst, Bytes.byteAt_eq_ok bytes hlast,
    Bytes.byteAt_eq_ok bytes hlength]
  simp only [bind, Except.bind, if_pos hne]

/-- What is parsed has been laid out. -/
theorem exists_layout_of_parse {bytes : Bytes} {f : Frame} (h : parse bytes = .ok f) :
    ∃ l : Layout, l.Fits ∧ l.bytes = bytes := by
  by_cases hshort : bytes.length < overhead
  · rw [parse_of_short hshort] at h
    cases h
  · have hlong : 7 ≤ bytes.length := by simpa [overhead] using hshort
    have hlength : bytes[3]? = some bytes[3] := List.getElem?_eq_getElem (by omega)
    by_cases htotal : bytes.length = bytes[3].toNat + overhead
    · obtain ⟨l, hl, -, hbytes⟩ := exists_layout hlength htotal
      exact ⟨l, hl, hbytes⟩
    · rw [parse_of_length_ne hlong (List.getElem?_eq_getElem (by omega))
        (List.getElem?_eq_getElem (by omega)) hlength htotal] at h
      split at h <;> cases h

/-- Bytes are read as a frame exactly if they are what is sent for that frame, and it is valid. -/
theorem parse_eq_ok_iff {bytes : Bytes} {f : Frame} :
    parse bytes = .ok f ↔ f.Valid ∧ bytes = f.toBytes := by
  constructor
  · intro h
    obtain ⟨l, hl, rfl⟩ := exists_layout_of_parse h
    rw [parse_layout hl] at h
    split at h
    · cases h
    next hmarkers =>
      split at h
      · cases h
      next hsum =>
        cases h
        simp only [ne_eq, not_or, Decidable.not_not] at hmarkers hsum
        have hcount : l.payload.length = l.length.toNat := hl
        have hlength : UInt8.ofNat l.payload.length = l.length := by
          rw [hcount, UInt8.ofNat_toNat]
        refine ⟨⟨?_, ?_⟩, ?_⟩
        · have := l.length.toNat_lt
          simp only [Layout.frame, maxPayload]
          omega
        · simpa only [Layout.frame, covered, hlength] using hsum
        · simp [Layout.bytes, toBytes, Layout.frame, hlength, hmarkers]
  · rintro ⟨hf, rfl⟩
    exact parse_toBytes hf

end Frame

end SensorGateway.Wire
