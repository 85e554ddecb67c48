import SensorGateway.Proofs.Text.Trim
import SensorGateway.Tank.MacSuffix

/-!
# Reading what was written

The written form of an address is one of its spellings (`MacSuffix.parse?_text`).  So two spellings
have the same written form if, and only if, they are of the same address, and it does not matter
whether addresses are compared as bytes or as texts (`MacSuffix.normalize?_eq_some_text`).
-/

namespace SensorGateway

namespace Text

variable {p : Char → Bool} {piece : List Char}

/-- A text without separators is its only piece. -/
theorem pieces_of_none (h : ∀ c ∈ piece, p c = false) : pieces p piece = [piece] := by
  induction piece with
  | nil => rfl
  | cons c piece ih =>
      obtain ⟨hc, hpiece⟩ := List.forall_mem_cons.mp h
      simp [pieces, hc, ih hpiece]

/-- The first piece ends at the first separator. -/
theorem pieces_append_cons (h : ∀ c ∈ piece, p c = false) {c : Char} (hc : p c = true)
    (rest : List Char) : pieces p (piece ++ c :: rest) = piece :: pieces p rest := by
  induction piece with
  | nil => simp [pieces, hc]
  | cons first piece ih =>
      obtain ⟨hfirst, hpiece⟩ := List.forall_mem_cons.mp h
      simp [pieces, hfirst, ih hpiece]

end Text

namespace MacSuffix

/-! ## One byte -/

/-- An upper-case digit has its value, and none of the other parts that an address can have. -/
theorem upper_digit : ∀ n < 16, Hex.value? (Nat.digitChar n).toUpper = some n ∧
    (Nat.digitChar n).toUpper ≠ '+' ∧ Text.isBlank (Nat.digitChar n).toUpper = false ∧
    isSeparator (Nat.digitChar n).toUpper = false := by
  decide +kernel

/-- An octet is written with two digits in upper case. -/
theorem octet_eq (b : UInt8) :
    octet b = [(Nat.digitChar (b.toNat / 16)).toUpper, (Nat.digitChar (b.toNat % 16)).toUpper] := by
  have hhigh : b.toNat / 16 % 16 = b.toNat / 16 := by
    have := b.toNat_lt
    omega
  simp [octet, Hex.fixed, Hex.digit, hhigh]

/-- A byte is read back from its two digits. -/
theorem byte?_octet (b : UInt8) : byte? (octet b) = some b := by
  have hlt : b.toNat / 16 < 16 := by
    have := b.toNat_lt
    omega
  obtain ⟨hhigh, hplus, -⟩ := upper_digit (b.toNat / 16) hlt
  obtain ⟨hlow, -⟩ := upper_digit (b.toNat % 16) (Nat.mod_lt _ (by decide))
  have hbyte : UInt8.ofNat (b.toNat / 16 * 16 + b.toNat % 16) = b := by
    rw [Nat.div_add_mod', UInt8.ofNat_toNat]
  simp only [octet_eq, byte?, hplus, if_false, hhigh, hlow, bind_pure_comp, Option.map_eq_map,
    Option.bind_eq_bind, Option.bind_some, Option.map_some, hbyte]

/-- The characters of an octet are neither blanks nor separators. -/
theorem mem_octet {b : UInt8} {c : Char} (h : c ∈ octet b) :
    Text.isBlank c = false ∧ isSeparator c = false := by
  have hlt : b.toNat / 16 < 16 := by
    have := b.toNat_lt
    omega
  obtain ⟨-, -, hhigh⟩ := upper_digit (b.toNat / 16) hlt
  obtain ⟨-, -, hlow⟩ := upper_digit (b.toNat % 16) (Nat.mod_lt _ (by decide))
  rw [octet_eq, List.mem_cons, List.mem_singleton] at h
  rcases h with rfl | rfl
  · exact hhigh
  · exact hlow

/-! ## The written form -/

/-- An address is written with colons between its octets. -/
theorem toList_text (m : MacSuffix) :
    m.text.toList = octet m.first ++ ':' :: (octet m.second ++ ':' :: octet m.third) := by
  rw [text, String.toList_ofList, List.append_assoc, List.cons_append]

/-- There are no blanks around a written address. -/
theorem trim_text (m : MacSuffix) : Text.trim m.text.toList = m.text.toList := by
  refine (Text.Trimmed.of_no_blank fun c hc => ?_).trim_eq
  rw [toList_text] at hc
  simp only [List.mem_append, List.mem_cons] at hc
  rcases hc with hc | rfl | hc | rfl | hc
  · exact (mem_octet hc).1
  · rfl
  · exact (mem_octet hc).1
  · rfl
  · exact (mem_octet hc).1

/-- The pieces of a written address are its octets. -/
theorem pieces_text (m : MacSuffix) :
    Text.pieces isSeparator m.text.toList = [octet m.first, octet m.second, octet m.third] := by
  have hoctet : ∀ b, ∀ c ∈ octet b, isSeparator c = false := fun _ _ hc => (mem_octet hc).2
  rw [toList_text, Text.pieces_append_cons (hoctet m.first) rfl,
    Text.pieces_append_cons (hoctet m.second) rfl, Text.pieces_of_none (hoctet m.third)]

/-- The written form can be read, and gives back the address. -/
@[simp] theorem parse?_text (m : MacSuffix) : parse? m.text = some m := by
  simp [parse?, trim_text, pieces_text, byte?_octet]

/-- Different addresses are written differently. -/
theorem text_injective {m m' : MacSuffix} (h : m.text = m'.text) : m = m' := by
  have hparse := parse?_text m
  rw [h, parse?_text] at hparse
  exact (Option.some.inj hparse).symm

/-- The written form is in normal form. -/
theorem normalize?_text (m : MacSuffix) : normalize? m.text = some m.text := by
  rw [normalize?, parse?_text, Option.map_some]

/-- A spelling has the written form of an address if, and only if, it is read as that address. -/
theorem normalize?_eq_some_text {s : String} {m : MacSuffix} :
    normalize? s = some m.text ↔ parse? s = some m := by
  rw [normalize?, Option.map_eq_some_iff]
  constructor
  · rintro ⟨m', hm', htext⟩
    rw [hm', text_injective htext]
  · exact fun hm => ⟨m, hm, rfl⟩

end MacSuffix

end SensorGateway
