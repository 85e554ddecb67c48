import SensorGateway.Text.Utf8

/-!
# The encoding of a text is read back

A character is encoded in one byte, or in a first byte and one to three continuation bytes.  A first
byte tells how many follow (`Lead`), and for some first bytes the second must lie in a part of its
range, which keeps out overlong forms, surrogates and numbers that are too large.  The encoding of a
character keeps to that part because of what a character can be, so that each character is read
back from the front of whatever comes behind it (`first_utf8EncodeChar`), and so is a whole text
(`decodeLossy_toUTF8`).
-/

namespace SensorGateway

/-! ## The bytes of a text -/

/-- The bytes are listed in their order. -/
private theorem toList_loop_eq (bytes : ByteArray) (i : Nat) (read : List UInt8) :
    ByteArray.toList.loop bytes i read = read.reverse ++ bytes.data.toList.drop i := by
  fun_induction ByteArray.toList.loop bytes i read with
  | case1 i read hi ih =>
      have hlength : i < bytes.data.toList.length := hi
      rw [ih, List.drop_eq_getElem_cons hlength, List.reverse_cons, List.append_assoc,
        List.singleton_append]
      simp [ByteArray.get!, hi]
  | case2 i read hi => rw [List.drop_eq_nil_of_le (Nat.le_of_not_lt hi), List.append_nil]

/-- The bytes of a text are those of its characters, one after another. -/
theorem toList_toUTF8 (s : String) : s.toUTF8.toList = s.toList.flatMap String.utf8EncodeChar := by
  have hencoded : s.toUTF8 = s.toList.utf8Encode := by
    rw [String.toUTF8_eq_toByteArray, ← String.toByteArray_ofList, String.ofList_toList]
  rw [hencoded, ByteArray.toList, toList_loop_eq, List.utf8Encode, List.data_toByteArray]
  rfl

namespace Utf8

variable {b c : UInt8} {rest : Bytes} {lead : Lead}

/-! ## First bytes -/

/-- The first byte `b` begins an encoding with the given share of the code point and the given
number of bytes after the second, and the byte `second` may stand behind it. -/
structure Leads (b second : Nat) (bits further : Nat) (lead : Lead) : Prop where
  read : Lead.of? b = some lead
  bits_eq : lead.bits = bits
  further_eq : lead.further = further
  least_le : lead.least ≤ second
  le_greatest : second ≤ lead.greatest

/-- Behind a first byte of two any continuation byte can stand. -/
theorem exists_leads_two {b second : Nat} (hleast : 0xC2 ≤ b) (hgreatest : b < 0xE0)
    (hsecond : 0x80 ≤ second ∧ second ≤ 0xBF) : ∃ lead, Leads b second (b - 0xC0) 0 lead := by
  obtain ⟨hlow, hhigh⟩ := hsecond
  refine ⟨⟨b - 0xC0, 0x80, 0xBF, 0⟩, ?_, rfl, rfl, hlow, hhigh⟩
  rw [Lead.of?, if_neg (by omega), if_pos hgreatest]

/-- Behind a first byte of three the overlong forms and the surrogates are kept out. -/
theorem exists_leads_three {b second : Nat} (hleast : 0xE0 ≤ b) (hgreatest : b < 0xF0)
    (hsecond : 0x80 ≤ second ∧ second ≤ 0xBF) (hoverlong : b = 0xE0 → 0xA0 ≤ second)
    (hsurrogate : b = 0xED → second ≤ 0x9F) : ∃ lead, Leads b second (b - 0xE0) 1 lead := by
  obtain ⟨hlow, hhigh⟩ := hsecond
  by_cases hE0 : b = 0xE0
  · subst hE0
    exact ⟨_, rfl, rfl, rfl, hoverlong rfl, hhigh⟩
  by_cases hED : b = 0xED
  · subst hED
    exact ⟨_, rfl, rfl, rfl, hlow, hsurrogate rfl⟩
  refine ⟨⟨b - 0xE0, 0x80, 0xBF, 1⟩, ?_, rfl, rfl, hlow, hhigh⟩
  rw [Lead.of?, if_neg (by omega), if_neg (by omega), if_neg hE0, if_neg hED, if_pos hgreatest]

/-- Behind a first byte of four the overlong forms and the numbers above U+10FFFF are kept out. -/
theorem exists_leads_four {b second : Nat} (hleast : 0xF0 ≤ b) (hgreatest : b ≤ 0xF4)
    (hsecond : 0x80 ≤ second ∧ second ≤ 0xBF) (hoverlong : b = 0xF0 → 0x90 ≤ second)
    (hlarge : b = 0xF4 → second ≤ 0x8F) : ∃ lead, Leads b second (b - 0xF0) 2 lead := by
  obtain ⟨hlow, hhigh⟩ := hsecond
  by_cases hF0 : b = 0xF0
  · subst hF0
    exact ⟨_, rfl, rfl, rfl, hoverlong rfl, hhigh⟩
  by_cases hF4 : b = 0xF4
  · subst hF4
    exact ⟨_, rfl, rfl, rfl, hlow, hlarge rfl⟩
  refine ⟨⟨b - 0xF0, 0x80, 0xBF, 2⟩, ?_, rfl, rfl, hlow, hhigh⟩
  rw [Lead.of?, if_neg (by omega), if_neg (by omega), if_neg (by omega), if_neg (by omega),
    if_neg (by omega), if_neg hF0, if_pos (by omega)]

/-- Single bytes are below all first bytes. -/
theorem le_of_lead {b : Nat} (h : Lead.of? b = some lead) : 0xC2 ≤ b := by
  apply Nat.le_of_not_lt
  intro hlt
  rw [Lead.of?, if_pos hlt] at h
  cases h

/-- A lead byte is followed by what it asks for. -/
theorem first_of_leads {bits further : Nat} (h : Leads b.toNat c.toNat bits further lead) :
    first b (c :: rest) = ((continuation further (bits * 64 + c.toNat % 64) rest).1.map Char.ofNat,
      (continuation further (bits * 64 + c.toNat % 64) rest).2) := by
  have hb := le_of_lead h.read
  simp only [first, if_neg (show ¬ b.toNat < 0x80 by omega), h.read,
    if_pos (And.intro h.least_le h.le_greatest), h.bits_eq, h.further_eq]

/-! ## Characters -/

/-- A byte that continues a sequence carries six bits. -/
theorem toNat_continuation (share : Nat) :
    (UInt8.ofNat (share % 64 + 128)).toNat = share % 64 + 128 := by
  rw [UInt8.toNat_ofNat']
  omega

/-- A continuation byte adds its six bits to what there is. -/
theorem continuation_cons (n point share : Nat) (rest : Bytes) :
    continuation (n + 1) point (UInt8.ofNat (share % 64 + 128) :: rest)
      = continuation n (point * 64 + share % 64) rest := by
  have hbits : (share % 64 + 128) % 64 = share % 64 := by omega
  rw [continuation, toNat_continuation, if_pos (by omega), hbits]

/-- The first byte and the second are read together. -/
theorem first_cons {n share bits further : Nat} (hn : n < 256)
    (h : ∃ lead, Leads n (share % 64 + 128) bits further lead) (rest : Bytes) :
    first (UInt8.ofNat n) (UInt8.ofNat (share % 64 + 128) :: rest)
      = ((continuation further (bits * 64 + share % 64) rest).1.map Char.ofNat,
        (continuation further (bits * 64 + share % 64) rest).2) := by
  have hbits : (share % 64 + 128) % 64 = share % 64 := by omega
  obtain ⟨lead, hlead⟩ := h
  have hfirst : Leads (UInt8.ofNat n).toNat (UInt8.ofNat (share % 64 + 128)).toNat bits further
      lead := by
    rwa [UInt8.toNat_ofNat_of_lt' hn, toNat_continuation]
  rw [first_of_leads hfirst, toNat_continuation, hbits]

/-- A character is read back from the front of its encoding and whatever is behind. -/
theorem first_utf8EncodeChar (c : Char) (rest : Bytes) :
    ∃ b later, String.utf8EncodeChar c = b :: later ∧ first b (later ++ rest) = (some c, rest) := by
  have hvalid : c.toNat < 0xD800 ∨ 0xDFFF < c.toNat ∧ c.toNat < 0x110000 := c.valid
  have hchar : Char.ofNat c.toNat = c := Char.ofNat_toNat c
  have hval : c.val.toNat = c.toNat := rfl
  unfold String.utf8EncodeChar
  simp only [hval]
  generalize c.toNat = v at hvalid hchar
  split
  next h1 =>
    refine ⟨_, [], rfl, ?_⟩
    have hbyte : v < 256 := by omega
    rw [first, UInt8.toNat_ofNat_of_lt' hbyte, if_pos (by omega), hchar]
    rfl
  next h1 =>
  split
  next h2 =>
    refine ⟨_, _, rfl, ?_⟩
    have hpoint : (v / 64 % 32 + 192 - 0xC0) * 64 + v % 64 = v := by omega
    rw [List.cons_append, first_cons (by omega) (exists_leads_two (by omega) (by omega) (by omega)),
      continuation, hpoint, Option.map_some, hchar]
    rfl
  next h2 =>
  split
  next h3 =>
    refine ⟨_, _, rfl, ?_⟩
    have hpoint : ((v / 4096 % 16 + 224 - 0xE0) * 64 + v / 64 % 64) * 64 + v % 64 = v := by omega
    rw [List.cons_append, List.cons_append, first_cons (by omega) (exists_leads_three (by omega)
      (by omega) (by omega) (by omega) (by omega)), continuation_cons, continuation, hpoint,
      Option.map_some, hchar]
    rfl
  next h3 =>
    refine ⟨_, _, rfl, ?_⟩
    have hpoint : (((v / 262144 % 8 + 240 - 0xF0) * 64 + v / 4096 % 64) * 64 + v / 64 % 64) * 64
        + v % 64 = v := by omega
    rw [List.cons_append, List.cons_append, List.cons_append, first_cons (by omega)
      (exists_leads_four (by omega) (by omega) (by omega) (by omega) (by omega)),
      continuation_cons, continuation_cons, continuation, hpoint, Option.map_some, hchar]
    rfl

/-- An encoded character is scanned as this character. -/
theorem scan_utf8EncodeChar_append (c : Char) (rest : Bytes) :
    scan (String.utf8EncodeChar c ++ rest) = some c :: scan rest := by
  obtain ⟨b, later, hencoded, hfirst⟩ := first_utf8EncodeChar c rest
  rw [hencoded, List.cons_append, scan, hfirst]

/-! ## Texts -/

/-- Encoded characters are decoded again. -/
theorem decodeLossy_flatMap_utf8EncodeChar (cs : List Char) :
    decodeLossy (cs.flatMap String.utf8EncodeChar) = cs := by
  unfold decodeLossy
  induction cs with
  | nil =>
      rw [List.flatMap_nil, scan]
      rfl
  | cons c cs ih =>
      rw [List.flatMap_cons, scan_utf8EncodeChar_append, List.map_cons, ih]
      rfl

/-- A text is read back from its encoding. -/
@[simp] theorem decodeLossy_toUTF8 (s : String) : decodeLossy s.toUTF8.toList = s.toList := by
  rw [toList_toUTF8, decodeLossy_flatMap_utf8EncodeChar]

end Utf8

end SensorGateway
