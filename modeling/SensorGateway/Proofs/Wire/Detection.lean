import SensorGateway.Proofs.Wire.Format

/-!
# What the checksum detects

A checksum of 16 bits cannot tell all sums of bytes apart, but the sums that occur in frames it can:
257 bytes, which is what the longest frame has covered, come to 65535 at most
(`Checksum.compute_eq_iff`).  So what is put in the place of the status and the payload of a frame is
accepted exactly if it has the same sum as they had.

The register is not covered, and it is the only byte of a frame that can be changed on its own
without being noticed.  The markers, the length and the checksum itself are not covered either, but
each follows from the other bytes: a frame is known by its register, status and payload
(`Frame.Valid.eq_of_contents`).
-/

namespace SensorGateway.Wire

/-! ## Sums of bytes -/

namespace Checksum

/-- A byte adds its value to the sum. -/
theorem byteSum_cons (b : UInt8) (bytes : Bytes) :
    byteSum (b :: bytes) = b.toNat + byteSum bytes := by
  rw [byteSum, List.map_cons, List.sum_cons]
  rfl

/-- No byte adds more than 255 to the sum. -/
theorem byteSum_le (bytes : Bytes) : byteSum bytes ≤ 255 * bytes.length := by
  induction bytes with
  | nil => exact Nat.zero_le _
  | cons b bytes ih =>
      have hb := b.toNat_lt
      rw [byteSum_cons, List.length_cons]
      omega

/-- Up to the longest frame, the checksum tells sums apart. -/
theorem compute_eq_iff {xs ys : Bytes} (hx : xs.length ≤ 257) (hy : ys.length ≤ 257) :
    compute xs = compute ys ↔ byteSum xs = byteSum ys := by
  have hxs : byteSum xs ≤ 65535 := by
    have := byteSum_le xs
    omega
  have hys : byteSum ys ≤ 65535 := by
    have := byteSum_le ys
    omega
  rw [compute_eq_complement, compute_eq_complement, complement, complement, ← UInt16.toNat_inj,
    UInt16.toNat_ofNat', UInt16.toNat_ofNat']
  omega

/-- With one byte more it does not. -/
example : compute (List.replicate 257 0xFF ++ [0x01]) = compute [] := by decide +kernel

/-- Replacing a byte changes the sum by the difference of the two. -/
theorem byteSum_set {bytes : Bytes} {i : Nat} {b : UInt8} (h : bytes[i]? = some b) (v : UInt8) :
    byteSum (bytes.set i v) + b.toNat = byteSum bytes + v.toNat := by
  induction bytes generalizing i with
  | nil => cases h
  | cons first bytes ih =>
      cases i with
      | zero =>
          obtain rfl : first = b := Option.some.inj h
          rw [List.set_cons_zero, byteSum_cons, byteSum_cons]
          omega
      | succ i =>
          have hrest := ih (i := i) h
          rw [List.set_cons_succ, byteSum_cons, byteSum_cons]
          omega

/-- A single change is seen in the sum. -/
theorem byteSum_set_ne {bytes : Bytes} {i : Nat} {b v : UInt8} (h : bytes[i]? = some b)
    (hne : v ≠ b) : byteSum (bytes.set i v) ≠ byteSum bytes := by
  intro heq
  apply hne
  apply UInt8.toNat_inj.mp
  have := byteSum_set h v
  omega

end Checksum

/-! ## Other contents between the same markers -/

/-- The bytes differ in the status and the payload of a frame at most. -/
structure SameEnvelope (bytes other : Bytes) : Prop where
  length : other.length = bytes.length
  /-- The third byte is the status, and the payload stands between the first four bytes and the last
  three. -/
  kept : ∀ i, i ≠ 2 → i < 4 ∨ bytes.length ≤ i + 3 → other[i]? = bytes[i]?

namespace Layout

variable {l : Layout} {other : Bytes}

/-- Bytes that are laid out are a frame if markers and checksum are right. -/
theorem parse_eq_ok_iff (hl : l.Fits) :
    (∃ f, Frame.parse l.bytes = .ok f) ↔ l.first = startMarker ∧ l.last = endMarker ∧
      l.stored = Checksum.compute (l.status :: l.length :: l.payload) := by
  rw [Frame.parse_layout hl]
  constructor
  · rintro ⟨f, h⟩
    split at h
    · cases h
    next hmarkers =>
      split at h
      · cases h
      next hsum =>
        rw [not_or, Decidable.not_not, Decidable.not_not] at hmarkers
        exact ⟨hmarkers.1, hmarkers.2, Decidable.not_not.mp hsum⟩
  · rintro ⟨hfirst, hlast, hsum⟩
    exact ⟨l.frame, by rw [if_neg (by simp [hfirst, hlast]), if_neg (by simp [hsum])]⟩

/-- The fields around status and payload are those of the bytes around them. -/
theorem exists_of_sameEnvelope (hl : l.Fits) (h : SameEnvelope l.bytes other) :
    ∃ l' : Layout, l'.Fits ∧ l'.bytes = other ∧ l'.first = l.first ∧ l'.length = l.length ∧
      l'.stored = l.stored ∧ l'.last = l.last := by
  have hn : l.payload.length = l.length.toNat := hl
  have hbytes : l.bytes.length = l.length.toNat + overhead := by rw [l.length_bytes, hn]
  have hlength : other[3]? = some l.length := h.kept 3 (by decide) (Or.inl (by decide))
  obtain ⟨l', hl', hsame, rfl⟩ := exists_layout hlength (h.length.trans hbytes)
  have hn' : l'.payload.length = l'.length.toNat := hl'
  have hbehind (i : Nat) (hi : l.length.toNat + 4 ≤ i) : l'.bytes[i]? = l.bytes[i]? := by
    apply h.kept i
    · omega
    · right
      rw [hbytes, overhead]
      omega
  refine ⟨l', hl', rfl, ?_, hsame, ?_, ?_⟩
  · exact Option.some.inj (h.kept 0 (by decide) (Or.inl (by decide)))
  · have hhigh := hbehind (l.length.toNat + 4) (Nat.le_refl _)
    have hlow := hbehind (l.length.toNat + 5) (Nat.le_succ _)
    rw [l.getElem?_high hl, ← hsame, l'.getElem?_high hl', Option.some.injEq] at hhigh
    rw [l.getElem?_low hl, ← hsame, l'.getElem?_low hl', Option.some.injEq] at hlow
    rw [← Word.ofBytes_high_low l'.stored, hhigh, hlow, Word.ofBytes_high_low]
  · have hend := hbehind (l.length.toNat + 6) (by omega)
    have hlast := l.getElem?_last
    have hlast' := l'.getElem?_last
    rw [hn] at hlast
    rw [hn', hsame] at hlast'
    exact Option.some.inj (hlast'.symm.trans (hend.trans hlast))

end Layout

namespace Frame

variable {bytes other : Bytes} {f g : Frame} {i : Nat} {b v : UInt8}

/-- Other contents are accepted exactly if they have the same sum. -/
theorem parse_sameEnvelope_iff (hf : f.Valid) (h : SameEnvelope f.toBytes other) :
    (∃ g, parse other = .ok g) ↔
      Checksum.byteSum ((other.drop 2).take (f.payload.length + 2))
        = Checksum.byteSum ((f.toBytes.drop 2).take (f.payload.length + 2)) := by
  obtain ⟨l, hl, rfl, hfirst, hlength, hstored, hlast⟩ :=
    Layout.exists_of_sameEnvelope hf.fits_layout h
  have hn : f.payload.length = l.length.toNat := by
    rw [hlength]
    exact hf.fits_layout
  have hsent : (f.toBytes.drop 2).take (f.payload.length + 2)
      = f.status :: f.layout.length :: f.payload := by
    rw [hn, hlength]
    exact f.layout.drop_take_covered hf.fits_layout
  have hle : f.payload.length ≤ 255 := hf.payload_le
  have hle' : l.payload.length ≤ 255 := by
    have hl : l.payload.length = l.length.toNat := hl
    omega
  have hsums : Checksum.compute (l.status :: l.length :: l.payload)
        = Checksum.compute (f.status :: f.layout.length :: f.payload) ↔
      Checksum.byteSum (l.status :: l.length :: l.payload)
        = Checksum.byteSum (f.status :: f.layout.length :: f.payload) :=
    Checksum.compute_eq_iff (Nat.add_le_add_right hle' 2) (Nat.add_le_add_right hle 2)
  rw [hsent, hn, l.drop_take_covered hl, ← hsums, Layout.parse_eq_ok_iff hl]
  have hchecksum : l.stored = Checksum.compute (f.status :: f.layout.length :: f.payload) :=
    hstored.trans hf.checksum_eq
  rw [hchecksum]
  constructor
  · rintro ⟨-, -, hsum⟩
    exact hsum.symm
  · intro hsum
    exact ⟨hfirst, hlast, hsum.symm⟩

/-! ## One byte changed -/

/-- The payload of a frame begins with its fifth byte. -/
theorem getElem?_toBytes_payload (f : Frame) {i : Nat} (hi : i < f.payload.length) :
    f.toBytes[i + 4]? = f.payload[i]? := by
  show (f.payload ++ Word.toBytes f.checksum ++ [endMarker])[i]? = f.payload[i]?
  rw [List.append_assoc, List.getElem?_append_left hi]

/-- A frame is known by its register, status and payload. -/
theorem Valid.eq_of_contents (hf : f.Valid) (hg : g.Valid) (hstatus : g.status = f.status)
    (hpayload : g.payload = f.payload) : g = { f with register := g.register } := by
  have hchecksum : g.checksum = f.checksum := by
    rw [hg.checksum_eq, hf.checksum_eq, hstatus, hpayload]
  rw [← hstatus, ← hpayload, ← hchecksum]

/-- The second byte of a frame is its register. -/
theorem toBytes_set_register (f : Frame) (v : UInt8) :
    f.toBytes.set 1 v = ({ f with register := v } : Frame).toBytes := rfl

/-- The status, or a byte of the payload, cannot be changed alone. -/
theorem not_parse_set_of_covered (hf : f.Valid) (hb : f.toBytes[i]? = some b) (hne : v ≠ b)
    (hi : i = 2 ∨ 4 ≤ i ∧ i + 3 < f.toBytes.length) : ¬ ∃ g, parse (f.toBytes.set i v) = .ok g := by
  have henvelope : SameEnvelope f.toBytes (f.toBytes.set i v) := by
    refine ⟨List.length_set, ?_⟩
    intro j hj hplace
    apply List.getElem?_set_ne
    omega
  rw [parse_sameEnvelope_iff hf henvelope]
  have hlength := f.length_toBytes
  simp only [overhead] at hlength
  have hcovered : ((f.toBytes.drop 2).take (f.payload.length + 2))[i - 2]? = some b := by
    rw [List.getElem?_take_of_lt (by omega), List.getElem?_drop, ← hb]
    congr 1
    omega
  have hset : ((f.toBytes.set i v).drop 2).take (f.payload.length + 2)
      = ((f.toBytes.drop 2).take (f.payload.length + 2)).set (i - 2) v := by
    rw [List.drop_set, if_neg (by omega), List.take_set]
  rw [hset]
  exact Checksum.byteSum_set_ne hcovered hne

/-- Any other byte but the register follows from the status and the payload. -/
theorem not_parse_set_of_envelope (hf : f.Valid) (hb : f.toBytes[i]? = some b) (hne : v ≠ b)
    (hi : i ≠ 1) (hout : i ≠ 2 ∧ (i < 4 ∨ f.toBytes.length ≤ i + 3)) :
    ¬ ∃ g, parse (f.toBytes.set i v) = .ok g := by
  rintro ⟨g, hg⟩
  obtain ⟨hg, hbytes⟩ := parse_eq_ok_iff.mp hg
  have hkept (j : Nat) (hj : i ≠ j) : g.toBytes[j]? = f.toBytes[j]? := by
    rw [← hbytes]
    exact List.getElem?_set_ne hj
  have hlength : g.payload.length = f.payload.length := by
    have hsame := congrArg List.length hbytes
    rw [List.length_set, length_toBytes, length_toBytes] at hsame
    omega
  have hlong := f.length_toBytes
  simp only [overhead] at hlong
  have hstatus : g.status = f.status := Option.some.inj (hkept 2 hout.1)
  have hpayload : g.payload = f.payload := by
    apply List.ext_getElem?
    intro j
    by_cases hj : j < f.payload.length
    · rw [← getElem?_toBytes_payload f hj, ← getElem?_toBytes_payload g (hlength ▸ hj)]
      apply hkept
      omega
    · rw [List.getElem?_eq_none (by omega), List.getElem?_eq_none (by omega)]
  -- so the byte is what it was
  rw [hf.eq_of_contents hg hstatus hpayload, ← toBytes_set_register f g.register] at hbytes
  have hlt : i < f.toBytes.length := (List.getElem?_eq_some_iff.mp hb).1
  have hsame : (f.toBytes.set i v)[i]? = (f.toBytes.set 1 g.register)[i]? := by rw [hbytes]
  rw [List.getElem?_set_self hlt, List.getElem?_set_ne hi.symm, hb] at hsame
  exact hne (Option.some.inj hsame)

/-- What is not parsed as a frame is refused with an error. -/
theorem exists_error_of_not_ok (h : ¬ ∃ g, parse bytes = .ok g) : ∃ e, parse bytes = .error e := by
  cases hparse : parse bytes with
  | ok g => exact absurd ⟨g, hparse⟩ h
  | error e => exact ⟨e, rfl⟩

/-- **What the checksum detects.**  If one byte of a frame is changed it is refused, unless the byte
is the register; then it is the same frame with another register.  If any bytes of status and payload
are replaced it is accepted exactly if their sum is the same: of as many bytes as a frame can have,
different sums have different checksums. -/
theorem change_detected (h : parse bytes = .ok f) :
    (∀ i b v, bytes[i]? = some b → v ≠ b →
      (i ≠ 1 → ∃ e, parse (bytes.set i v) = .error e) ∧
      (i = 1 → parse (bytes.set i v) = .ok { f with register := v })) ∧
    (∀ other, SameEnvelope bytes other →
      ((∃ g, parse other = .ok g) ↔
        Checksum.byteSum ((other.drop 2).take (f.payload.length + 2))
          = Checksum.byteSum ((bytes.drop 2).take (f.payload.length + 2)))) ∧
    ∀ xs ys : Bytes, xs.length ≤ 257 → ys.length ≤ 257 →
      (Checksum.compute xs = Checksum.compute ys ↔
        Checksum.byteSum xs = Checksum.byteSum ys) := by
  obtain ⟨hf, rfl⟩ := parse_eq_ok_iff.mp h
  refine ⟨?_, fun other hother => parse_sameEnvelope_iff hf hother,
    fun xs ys hx hy => Checksum.compute_eq_iff hx hy⟩
  intro i b v hb hne
  constructor
  · intro hi
    apply exists_error_of_not_ok
    by_cases hcovered : i = 2 ∨ 4 ≤ i ∧ i + 3 < f.toBytes.length
    · exact not_parse_set_of_covered hf hb hne hcovered
    · exact not_parse_set_of_envelope hf hb hne hi (by omega)
  · rintro rfl
    rw [toBytes_set_register]
    exact parse_toBytes ⟨hf.payload_le, hf.checksum_eq⟩

/-- Of the voltages of a cell: another register is accepted, another length is not, and two bytes of
the payload may change places but one of them may not be raised. -/
theorem change_detected_in_cells :
    let bytes : Bytes := [0xDD, 0x04, 0x00, 0x02, 0x0F, 0xA0, 0xFF, 0x4F, 0x77]
    let f : Frame := { register := 0x04, status := 0, payload := [0x0F, 0xA0], checksum := 0xFF4F }
    let swapped : Bytes := [0xDD, 0x04, 0x00, 0x02, 0xA0, 0x0F, 0xFF, 0x4F, 0x77]
    parse bytes = .ok f ∧
      parse (bytes.set 1 0x05) = .ok { f with register := 0x05 } ∧
      (∃ e, parse (bytes.set 3 0x03) = .error e) ∧ (∃ e, parse (bytes.set 5 0xA1) = .error e) ∧
      SameEnvelope bytes swapped ∧ (∃ g, parse swapped = .ok g) ∧
      (Checksum.compute [0x00, 0x02, 0x0F, 0xA0] = Checksum.compute [0xB1] ↔
        Checksum.byteSum [0x00, 0x02, 0x0F, 0xA0] = Checksum.byteSum [0xB1]) := by
  intro bytes f swapped
  have hparse : parse bytes = .ok f := rfl
  obtain ⟨hone, hmany, hsums⟩ := change_detected hparse
  have hswapped : SameEnvelope bytes swapped := by
    refine ⟨rfl, ?_⟩
    intro i hi hplace
    match i, hi, hplace with
    | 0, _, _ | 1, _, _ | 3, _, _ | 6, _, _ | 7, _, _ | 8, _, _ => rfl
    | 2, hi, _ => exact absurd rfl hi
    | 4, _, hplace | 5, _, hplace => exact absurd hplace (by decide)
    | _ + 9, _, _ => rfl
  refine ⟨hparse, (hone 1 0x04 0x05 rfl (by decide)).2 rfl,
    (hone 3 0x02 0x03 rfl (by decide)).1 (by decide),
    (hone 5 0xA0 0xA1 rfl (by decide)).1 (by decide), hswapped, ?_, ?_⟩
  · exact (hmany swapped hswapped).mpr (by decide)
  · exact hsums _ _ (by decide) (by decide)

end Frame

end SensorGateway.Wire
