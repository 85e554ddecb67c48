import Mathlib.Algebra.GroupWithZero.Nat
import SensorGateway.Proofs.Wire.Frame

/-!
# The frame format, both ways

Writing and reading are two accounts of one format.  They agree: the byte strings that are read are
the ones that are written, each for the frame that it was written for.  All others are refused, and
`FirstFault` says with which error, without reference to how the bytes are read: it looks for the
first of four faults, among them a stored checksum that is not the complement of the sum of the
covered bytes (`Checksum.complement`).

The proof never follows `parse` into its reads.  Bytes that are as many as they say have a `Layout`,
on which `parse` is two comparisons (`Frame.parse_layout`); others are refused before anything else
in them is looked at.
-/

namespace SensorGateway.Wire

/-! ## The complement of a sum -/

namespace Checksum

/-- The sum of bytes, as a number. -/
def byteSum (bytes : Bytes) : Nat := (bytes.map UInt8.toNat).sum

/-- What has to be added to the sum of bytes to reach zero in 16 bits. -/
def complement (bytes : Bytes) : UInt16 := UInt16.ofNat (65536 - byteSum bytes % 65536)

/-- Subtracting bytes one after another is subtracting their sum, modulo the word. -/
theorem toNat_foldl_sub (bytes : Bytes) (start : UInt16) :
    (bytes.foldl (fun sum b => sum - b.toUInt16) start).toNat
      = (start.toNat + (65536 - byteSum bytes % 65536)) % 65536 := by
  induction bytes generalizing start with
  | nil =>
      have := start.toNat_lt
      simp only [List.foldl_nil, byteSum, List.map_nil, List.sum_nil]
      omega
  | cons b bytes ih =>
      have hstep : (start - b.toUInt16).toNat = (65536 - b.toNat + start.toNat) % 65536 := by
        rw [UInt16.toNat_sub, UInt8.toNat_toUInt16]
      have := b.toNat_lt
      rw [List.foldl_cons, ih, hstep]
      simp only [byteSum, List.map_cons, List.sum_cons]
      omega

/-- The checksum is the complement of the sum of the bytes. -/
theorem compute_eq_complement (bytes : Bytes) : compute bytes = complement bytes := by
  apply UInt16.toNat_inj.mp
  rw [compute, toNat_foldl_sub, complement, UInt16.toNat_ofNat']
  simp

end Checksum

/-! ## What is wrong with bytes -/

/-- The first byte is the start marker and the last one the end marker. -/
def Marked (bytes : Bytes) : Prop :=
  bytes.head? = some startMarker ∧ bytes.getLast? = some endMarker

/-- The first fault of bytes that are not a frame. -/
inductive FirstFault (bytes : Bytes) : FrameError → Prop
  | tooShort : bytes.length < overhead → FirstFault bytes (.tooShort bytes.length)
  | badMarkers : overhead ≤ bytes.length → ¬ Marked bytes → FirstFault bytes .badMarkers
  | lengthMismatch {length : UInt8} : overhead ≤ bytes.length → Marked bytes →
      bytes[3]? = some length → bytes.length ≠ length.toNat + overhead →
      FirstFault bytes (.lengthMismatch length.toNat bytes.length)
  | checksumMismatch {length high low : UInt8} : Marked bytes → bytes[3]? = some length →
      bytes.length = length.toNat + overhead →
      bytes[length.toNat + 4]? = some high → bytes[length.toNat + 5]? = some low →
      Word.ofBytes high low ≠ Checksum.complement ((bytes.drop 2).take (length.toNat + 2)) →
      FirstFault bytes
        (.checksumMismatch (Checksum.complement ((bytes.drop 2).take (length.toNat + 2)))
          (Word.ofBytes high low))

namespace Layout

variable {l : Layout}

/-- Bytes that are laid out are marked if the markers are where they belong. -/
theorem marked_bytes_iff : Marked l.bytes ↔ l.first = startMarker ∧ l.last = endMarker := by
  have hfirst : l.bytes.head? = some l.first := rfl
  have hlast : l.bytes.getLast? = some l.last := List.getLast?_concat
  rw [Marked, hfirst, hlast, Option.some.injEq, Option.some.injEq]

/-- What the checksum covers stands behind the register. -/
theorem drop_take_covered (hl : l.Fits) :
    (l.bytes.drop 2).take (l.length.toNat + 2) = l.status :: l.length :: l.payload := by
  have hl : l.payload.length = l.length.toNat := hl
  simp [bytes, ← hl]

/-- The high byte of the checksum stands behind the payload, -/
theorem getElem?_high (hl : l.Fits) :
    l.bytes[l.length.toNat + 4]? = some (Word.high l.stored) := by
  have hl : l.payload.length = l.length.toNat := hl
  simp [bytes, Word.toBytes, ← hl]

/-- and the low byte behind that. -/
theorem getElem?_low (hl : l.Fits) :
    l.bytes[l.length.toNat + 5]? = some (Word.low l.stored) := by
  have hl : l.payload.length = l.length.toNat := hl
  simp [bytes, Word.toBytes, ← hl]

end Layout

namespace Frame

variable {bytes : Bytes} {e : FrameError}

/-- The markers of bytes that are long enough to be a frame. -/
theorem exists_markers (hlong : overhead ≤ bytes.length) :
    ∃ first last, bytes[0]? = some first ∧ bytes[bytes.length - 1]? = some last ∧
      (Marked bytes ↔ first = startMarker ∧ last = endMarker) := by
  have hlong : 7 ≤ bytes.length := hlong
  refine ⟨bytes[0], bytes[bytes.length - 1], List.getElem?_eq_getElem (by omega),
    List.getElem?_eq_getElem (by omega), ?_⟩
  rw [Marked, List.head?_eq_getElem?, List.getLast?_eq_getElem?,
    List.getElem?_eq_getElem (by omega), List.getElem?_eq_getElem (by omega),
    Option.some.injEq, Option.some.injEq]

/-- The length byte of bytes that are long enough to be a frame. -/
theorem exists_length (hlong : overhead ≤ bytes.length) : ∃ length, bytes[3]? = some length := by
  have hlong : 7 ≤ bytes.length := hlong
  exact ⟨bytes[3], List.getElem?_eq_getElem (by omega)⟩

/-- What is wrong first is what parsing fails with. -/
theorem parse_of_firstFault (h : FirstFault bytes e) : parse bytes = .error e := by
  cases h with
  | tooShort hshort => exact parse_of_short hshort
  | badMarkers hlong hmarked =>
      obtain ⟨first, last, hfirst, hlast, hiff⟩ := exists_markers hlong
      have hbad : first ≠ startMarker ∨ last ≠ endMarker := by
        rwa [hiff, Decidable.not_and_iff_not_or_not] at hmarked
      obtain ⟨length, hlength⟩ := exists_length hlong
      -- whether the length is right makes no difference behind wrong markers
      by_cases htotal : bytes.length = length.toNat + overhead
      · obtain ⟨l, hl, -, rfl⟩ := exists_layout hlength htotal
        rw [l.marked_bytes_iff, Decidable.not_and_iff_not_or_not] at hmarked
        rw [parse_layout hl, if_pos hmarked]
      · rw [parse_of_length_ne hlong hfirst hlast hlength htotal, if_pos hbad]
  | lengthMismatch hlong hmarked hlength htotal =>
      obtain ⟨first, last, hfirst, hlast, hiff⟩ := exists_markers hlong
      have hgood : ¬ (first ≠ startMarker ∨ last ≠ endMarker) := by
        simpa [not_or] using hiff.mp hmarked
      rw [parse_of_length_ne hlong hfirst hlast hlength htotal, if_neg hgood]
  | checksumMismatch hmarked hlength htotal hhigh hlow hsum =>
      obtain ⟨l, hl, rfl, rfl⟩ := exists_layout hlength htotal
      have hgood : ¬ (l.first ≠ startMarker ∨ l.last ≠ endMarker) := by
        simpa [not_or] using l.marked_bytes_iff.mp hmarked
      cases (l.getElem?_high hl).symm.trans hhigh
      cases (l.getElem?_low hl).symm.trans hlow
      rw [l.drop_take_covered hl, Word.ofBytes_high_low, ← Checksum.compute_eq_complement] at hsum ⊢
      rw [parse_layout hl, if_neg hgood, if_pos hsum]

/-- Bytes without a fault are read. -/
theorem exists_firstFault_of_not_ok (h : ∀ f, parse bytes ≠ .ok f) : ∃ e, FirstFault bytes e := by
  by_cases hshort : bytes.length < overhead
  · exact ⟨_, .tooShort hshort⟩
  have hlong : overhead ≤ bytes.length := Nat.le_of_not_lt hshort
  by_cases hmarked : Marked bytes
  · obtain ⟨length, hlength⟩ := exists_length hlong
    by_cases htotal : bytes.length = length.toNat + overhead
    · obtain ⟨l, hl, rfl, rfl⟩ := exists_layout hlength htotal
      have hgood : ¬ (l.first ≠ startMarker ∨ l.last ≠ endMarker) := by
        simpa [not_or] using l.marked_bytes_iff.mp hmarked
      have hsum : l.stored ≠ Checksum.compute (l.status :: l.length :: l.payload) := by
        intro hsum
        refine h l.frame ?_
        rw [parse_layout hl, if_neg hgood, if_neg (not_not_intro hsum)]
      refine ⟨_, .checksumMismatch hmarked hlength htotal (l.getElem?_high hl) (l.getElem?_low hl) ?_⟩
      rwa [l.drop_take_covered hl, Word.ofBytes_high_low, ← Checksum.compute_eq_complement]
    · exact ⟨_, .lengthMismatch hlong hmarked hlength htotal⟩
  · exact ⟨_, .badMarkers hlong hmarked⟩

/-- Parsing fails with what is wrong first, and with nothing else. -/
theorem parse_eq_error_iff : parse bytes = .error e ↔ FirstFault bytes e := by
  constructor
  · intro h
    have hrefused : ∀ f, parse bytes ≠ .ok f := by simp [h]
    obtain ⟨e', hfault⟩ := exists_firstFault_of_not_ok hrefused
    have hsame : e = e' := by simpa [h] using parse_of_firstFault hfault
    exact hsame ▸ hfault
  · exact parse_of_firstFault

/-- **The frame format is a bijection.**  Bytes are read as a frame exactly if they are what is
written for it and the frame can be built around a payload of at most 255 bytes; all other bytes are
refused, with the first of their faults. -/
theorem parse_inverts_toBytes (bytes : Bytes) :
    (∀ f, parse bytes = .ok f ↔
      ∃ register status payload, payload.length ≤ 255 ∧
        wrap register status payload = .ok f ∧ bytes = f.toBytes) ∧
    (∀ e, parse bytes = .error e ↔ FirstFault bytes e) := by
  refine ⟨fun f => ?_, fun e => parse_eq_error_iff⟩
  rw [parse_eq_ok_iff, valid_iff_wrap]
  constructor
  · rintro ⟨⟨register, status, payload, hwrap⟩, hbytes⟩
    refine ⟨register, status, payload, ?_, hwrap, hbytes⟩
    unfold wrap at hwrap
    split at hwrap
    next hle => exact hle
    next => cases hwrap
  · rintro ⟨register, status, payload, -, hwrap, hbytes⟩
    exact ⟨⟨register, status, payload, hwrap⟩, hbytes⟩

end Frame

end SensorGateway.Wire
