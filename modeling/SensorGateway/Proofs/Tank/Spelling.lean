import SensorGateway.Proofs.Tank.MacSuffix

/-!
# Which texts spell an address

`MacSuffix.parse?` takes the blanks off a text, cuts it at the separators and reads a number from
each piece.  `Spells` says what comes of it from the side of the reader: three groups with a colon
or a hyphen between them and blanks around, each group standing for two digits.

Which groups there are is a parameter.  An address on a label has two digits in each (`TwoDigits`).
The reader of numbers also takes a plus sign and one digit (`Octet`), and that is the only
difference: a text is read exactly if it is spelled with such groups (`normalize?_iff_spells`), and
the spellings without a plus sign are those of a label (`spells_twoDigits_iff`).
-/

namespace SensorGateway

/-! ## Cutting -/

namespace Text

variable {p : Char → Bool} {piece : List Char}

/-- There is always a first piece. -/
theorem pieces_ne_nil (cs : List Char) : pieces p cs ≠ [] := by
  cases cs with
  | nil => exact List.cons_ne_nil _ _
  | cons c cs =>
      rw [pieces]
      split
      · exact List.cons_ne_nil _ _
      · split <;> exact List.cons_ne_nil _ _

/-- A character that is no separator goes to the first piece. -/
theorem pieces_cons_of_not {c : Char} (hc : p c = false) {cs : List Char}
    {later : List (List Char)} (h : pieces p (c :: cs) = piece :: later) :
    ∃ tail, piece = c :: tail ∧ pieces p cs = tail :: later := by
  rw [pieces, if_neg (by simp [hc])] at h
  cases hcs : pieces p cs with
  | nil => exact absurd hcs (pieces_ne_nil cs)
  | cons tail later' =>
      rw [hcs] at h
      obtain ⟨rfl, rfl⟩ := List.cons.inj h
      exact ⟨tail, rfl, rfl⟩

/-- A text that is its only piece has nothing else. -/
theorem eq_of_pieces_singleton {cs : List Char} (h : pieces p cs = [piece]) : cs = piece := by
  induction cs generalizing piece with
  | nil => simpa [pieces] using h
  | cons c cs ih =>
      cases hc : p c with
      | true =>
          rw [pieces, if_pos hc] at h
          exact absurd (List.cons.inj h).2 (pieces_ne_nil cs)
      | false =>
          obtain ⟨tail, rfl, htail⟩ := pieces_cons_of_not hc h
          rw [ih htail]

/-- Between two pieces there is one separator. -/
theorem exists_of_pieces_cons_cons {cs next : List Char} {later : List (List Char)}
    (h : pieces p cs = piece :: next :: later) :
    ∃ c rest, p c = true ∧ cs = piece ++ c :: rest ∧ pieces p rest = next :: later := by
  induction cs generalizing piece with
  | nil => simp [pieces] at h
  | cons c cs ih =>
      cases hc : p c with
      | true =>
          rw [pieces, if_pos hc] at h
          obtain ⟨rfl, hlater⟩ := List.cons.inj h
          exact ⟨c, cs, hc, rfl, hlater⟩
      | false =>
          obtain ⟨tail, rfl, htail⟩ := pieces_cons_of_not hc h
          obtain ⟨sep, rest, hsep, rfl, hrest⟩ := ih htail
          exact ⟨sep, rest, hsep, rfl, hrest⟩

end Text

namespace MacSuffix

/-! ## Spellings -/

/-- The character is a hexadecimal digit. -/
def IsHexDigit (c : Char) : Prop := c ∈ "0123456789abcdefABCDEF".toList

instance (c : Char) : Decidable (IsHexDigit c) :=
  inferInstanceAs (Decidable (_ ∈ _))

/-- The group is two digits. -/
inductive TwoDigits : List Char → Char × Char → Prop
  | digits {a b : Char} : IsHexDigit a → IsHexDigit b → TwoDigits [a, b] (a, b)

/-- The group is two digits, or a plus sign and a digit, which stand for that digit behind a
zero. -/
inductive Octet : List Char → Char × Char → Prop
  | digits {a b : Char} : IsHexDigit a → IsHexDigit b → Octet [a, b] (a, b)
  | plus {b : Char} : IsHexDigit b → Octet ['+', b] ('0', b)

/-- The digits of an address, two for each byte. -/
structure Digits where
  first : Char × Char
  second : Char × Char
  third : Char × Char
  deriving DecidableEq

namespace Digits

/-- The digits in upper case. -/
def upper (d : Digits) : Digits where
  first := d.first.map Char.toUpper Char.toUpper
  second := d.second.map Char.toUpper Char.toUpper
  third := d.third.map Char.toUpper Char.toUpper

/-- The digits with colons between the bytes. -/
def text (d : Digits) : String :=
  .ofList [d.first.1, d.first.2, ':', d.second.1, d.second.2, ':', d.third.1, d.third.2]

/-- Different addresses are written differently. -/
theorem text_injective : Function.Injective text := by
  intro d d' h
  have hchars := String.ofList_injective h
  obtain ⟨⟨_, _⟩, ⟨_, _⟩, ⟨_, _⟩⟩ := d
  obtain ⟨⟨_, _⟩, ⟨_, _⟩, ⟨_, _⟩⟩ := d'
  simpa [and_assoc] using hchars

end Digits

/-- The text is three groups, separated by colons or hyphens and with blanks around, which stand for
the digits. -/
inductive Spells (Group : List Char → Char × Char → Prop) (s : String) (d : Digits) : Prop
  | groups {before first second third after : List Char} {sep sep' : Char}
      (text : s.toList = before ++ (first ++ sep :: (second ++ sep' :: third)) ++ after)
      (blank_before : ∀ c ∈ before, Text.isBlank c = true)
      (blank_after : ∀ c ∈ after, Text.isBlank c = true)
      (separator : sep = ':' ∨ sep = '-') (separator' : sep' = ':' ∨ sep' = '-')
      (first_group : Group first d.first) (second_group : Group second d.second)
      (third_group : Group third d.third)

variable {s : String} {d : Digits} {group : List Char} {pair : Char × Char}

/-! ## Digits and their values -/

/-- A hexadecimal digit has a value, of which it is the digit again, in lower or in upper case. -/
theorem IsHexDigit.value {c : Char} (h : IsHexDigit c) :
    ∃ n < 16, Hex.value? c = some n ∧ (Nat.digitChar n).toUpper = c.toUpper := by
  -- by running through the digits, and not through all characters
  have hall : "0123456789abcdefABCDEF".toList.all (fun c => (Hex.value? c).any fun n =>
      decide (n < 16 ∧ (Nat.digitChar n).toUpper = c.toUpper)) = true := by
    decide +kernel
  obtain ⟨n, hvalue, hn⟩ := (Option.any_eq_true _ _).mp (List.all_eq_true.mp hall c h)
  obtain ⟨hlt, hupper⟩ := of_decide_eq_true hn
  exact ⟨n, hlt, hvalue, hupper⟩

/-- A digit is none of the other parts that a spelling can have. -/
theorem IsHexDigit.not_other {c : Char} (h : IsHexDigit c) :
    c ≠ '+' ∧ Text.isBlank c = false ∧ isSeparator c = false := by
  have hall : "0123456789abcdefABCDEF".toList.all (fun c => decide
      (c ≠ '+' ∧ Text.isBlank c = false ∧ isSeparator c = false)) = true := by
    decide +kernel
  exact of_decide_eq_true (List.all_eq_true.mp hall c h)

/-- Only hexadecimal digits have values. -/
theorem isHexDigit_of_value {c : Char} {n : Nat} (h : Hex.value? c = some n) : IsHexDigit c := by
  have hall : ∀ m < 128, (48 ≤ m ∧ m ≤ 57 ∨ 97 ≤ m ∧ m ≤ 102 ∨ 65 ≤ m ∧ m ≤ 70) →
      IsHexDigit (Char.ofNat m) := by
    decide +kernel
  have hrange : 48 ≤ c.toNat ∧ c.toNat ≤ 57 ∨ 97 ≤ c.toNat ∧ c.toNat ≤ 102 ∨
      65 ≤ c.toNat ∧ c.toNat ≤ 70 := by
    unfold Hex.value? at h
    split at h
    next hc => exact Or.inl hc
    next =>
      split at h
      next hc => exact Or.inr (Or.inl hc)
      next =>
        split at h
        next hc => exact Or.inr (Or.inr hc)
        next => cases h
  rw [← Char.ofNat_toNat c]
  exact hall c.toNat (by omega) hrange

/-! ## One group -/

/-- An octet is written with the digits of its two halves. -/
theorem octet_ofNat {high low : Nat} (hhigh : high < 16) (hlow : low < 16) :
    octet (UInt8.ofNat (high * 16 + low))
      = [(Nat.digitChar high).toUpper, (Nat.digitChar low).toUpper] := by
  have hnat : (UInt8.ofNat (high * 16 + low)).toNat = high * 16 + low := by
    rw [UInt8.toNat_ofNat']
    omega
  have hdiv : (high * 16 + low) / 16 = high := by omega
  have hmod : (high * 16 + low) % 16 = low := by omega
  rw [octet_eq, hnat, hdiv, hmod]

/-- A group is read as the byte of its two digits. -/
theorem Octet.exists_byte (h : Octet group pair) :
    ∃ b, byte? group = some b ∧ octet b = [pair.1.toUpper, pair.2.toUpper] := by
  cases h with
  | @digits a b ha hb =>
      obtain ⟨high, hhigh, ha', hupper⟩ := ha.value
      obtain ⟨low, hlow, hb', hlower⟩ := hb.value
      refine ⟨UInt8.ofNat (high * 16 + low), ?_, ?_⟩
      · rw [byte?, if_neg ha.not_other.1, ha', hb']
        rfl
      · rw [octet_ofNat hhigh hlow, hupper, hlower]
  | @plus b hb =>
      obtain ⟨low, hlow, hb', hlower⟩ := hb.value
      refine ⟨UInt8.ofNat (0 * 16 + low), ?_, ?_⟩
      · rw [byte?, if_pos rfl, hb']
        rfl
      · rw [octet_ofNat (by decide) hlow, hlower]
        rfl

/-- Only such groups are read. -/
theorem exists_octet {b : UInt8} (h : byte? group = some b) : ∃ pair, Octet group pair := by
  match group with
  | [x, y] =>
      by_cases hx : x = '+'
      · subst hx
        obtain ⟨low, hlow, -⟩ := Option.bind_eq_some_iff.mp h
        exact ⟨_, Octet.plus (isHexDigit_of_value hlow)⟩
      · rw [byte?, if_neg hx] at h
        obtain ⟨high, hhigh, h⟩ := Option.bind_eq_some_iff.mp h
        obtain ⟨low, hlow, -⟩ := Option.bind_eq_some_iff.mp h
        exact ⟨_, Octet.digits (isHexDigit_of_value hhigh) (isHexDigit_of_value hlow)⟩
  | [] | [_] | _ :: _ :: _ :: _ => cases h

/-- In the spelling of an octet there are digits, and perhaps a plus sign. -/
theorem Octet.mem (h : Octet group pair) {c : Char} (hc : c ∈ group) :
    IsHexDigit c ∨ c = '+' := by
  cases h with
  | digits ha hb =>
      simp only [List.mem_cons, List.not_mem_nil, or_false] at hc
      rcases hc with rfl | rfl
      · exact Or.inl ha
      · exact Or.inl hb
  | plus hb =>
      simp only [List.mem_cons, List.not_mem_nil, or_false] at hc
      rcases hc with rfl | rfl
      · exact Or.inr rfl
      · exact Or.inl hb

/-- There are no blanks or separators in it. -/
theorem Octet.not_other (h : Octet group pair) {c : Char} (hc : c ∈ group) :
    Text.isBlank c = false ∧ isSeparator c = false := by
  rcases h.mem hc with hdigit | rfl
  · exact hdigit.not_other.2
  · decide

/-- The groups of a label are those without a plus sign. -/
theorem twoDigits_iff : TwoDigits group pair ↔ Octet group pair ∧ '+' ∉ group := by
  constructor
  · intro h
    cases h with
    | digits ha hb =>
        refine ⟨.digits ha hb, ?_⟩
        intro hplus
        simp only [List.mem_cons, List.not_mem_nil, or_false] at hplus
        rcases hplus with rfl | rfl
        · exact ha.not_other.1 rfl
        · exact hb.not_other.1 rfl
  · rintro ⟨h, hplus⟩
    cases h with
    | digits ha hb => exact .digits ha hb
    | plus => exact absurd List.mem_cons_self hplus

/-! ## Whole texts -/

/-- The separators are the colon and the hyphen. -/
theorem isSeparator_iff {c : Char} : isSeparator c = true ↔ c = ':' ∨ c = '-' := by
  simp [isSeparator]

/-- A spelling is read as the address of its digits. -/
theorem Spells.exists_parse (h : Spells Octet s d) :
    ∃ m, parse? s = some m ∧ m.text = d.upper.text := by
  obtain ⟨htext, hbefore, hafter, hsep, hsep', hfirst, hsecond, hthird⟩ := h
  next before first second third after sep sep' =>
  let core := first ++ sep :: (second ++ sep' :: third)
  have hblank : ∀ c ∈ core, Text.isBlank c = false := by
    intro c hc
    simp only [core, List.mem_append, List.mem_cons] at hc
    rcases hc with hc | rfl | hc | rfl | hc
    · exact (hfirst.not_other hc).1
    · rcases hsep with rfl | rfl <;> decide
    · exact (hsecond.not_other hc).1
    · rcases hsep' with rfl | rfl <;> decide
    · exact (hthird.not_other hc).1
  have hpieces : Text.pieces isSeparator (Text.trim s.toList) = [first, second, third] := by
    rw [htext, Text.trim_append_core hbefore (.of_no_blank hblank) hafter]
    rw [Text.pieces_append_cons (fun c hc => (hfirst.not_other hc).2) (isSeparator_iff.mpr hsep),
      Text.pieces_append_cons (fun c hc => (hsecond.not_other hc).2) (isSeparator_iff.mpr hsep'),
      Text.pieces_of_none fun c hc => (hthird.not_other hc).2]
  obtain ⟨a, ha, haText⟩ := hfirst.exists_byte
  obtain ⟨b, hb, hbText⟩ := hsecond.exists_byte
  obtain ⟨c, hc, hcText⟩ := hthird.exists_byte
  refine ⟨⟨a, b, c⟩, ?_, ?_⟩
  · simp only [parse?, hpieces, ha, hb, hc]
    rfl
  · rw [text, haText, hbText, hcText]
    rfl

/-- Only spellings are read. -/
theorem exists_spells {m : MacSuffix} (h : parse? s = some m) : ∃ d, Spells Octet s d := by
  unfold parse? at h
  split at h
  next first second third hpieces =>
    obtain ⟨a, ha, h⟩ := Option.bind_eq_some_iff.mp h
    obtain ⟨b, hb, h⟩ := Option.bind_eq_some_iff.mp h
    obtain ⟨c, hc, -⟩ := Option.bind_eq_some_iff.mp h
    obtain ⟨firstDigits, hfirst⟩ := exists_octet ha
    obtain ⟨secondDigits, hsecond⟩ := exists_octet hb
    obtain ⟨thirdDigits, hthird⟩ := exists_octet hc
    obtain ⟨before, after, htext, hbefore, hafter⟩ := Text.exists_trim_append s.toList
    obtain ⟨sep, rest, hsep, hcore, hrest⟩ := Text.exists_of_pieces_cons_cons hpieces
    obtain ⟨sep', last, hsep', rfl, hlast⟩ := Text.exists_of_pieces_cons_cons hrest
    obtain rfl := Text.eq_of_pieces_singleton hlast
    rw [hcore] at htext
    exact ⟨⟨firstDigits, secondDigits, thirdDigits⟩, .groups htext hbefore hafter
      (isSeparator_iff.mp hsep) (isSeparator_iff.mp hsep') hfirst hsecond hthird⟩
  next => cases h

/-- A text that spells six digits is normalised to them. -/
theorem Spells.normalize (h : Spells Octet s d) : normalize? s = some d.upper.text := by
  obtain ⟨m, hm, htext⟩ := h.exists_parse
  rw [normalize?, hm, Option.map_some, htext]

/-- A text is normalised if it spells six digits, and to these. -/
theorem normalize?_iff_spells {c : String} :
    normalize? s = some c ↔ ∃ d, Spells Octet s d ∧ c = d.upper.text := by
  constructor
  · intro h
    obtain ⟨m, hm, -⟩ := Option.map_eq_some_iff.mp h
    obtain ⟨d, hd⟩ := exists_spells hm
    rw [hd.normalize] at h
    exact ⟨d, hd, (Option.some.inj h).symm⟩
  · rintro ⟨d, hd, rfl⟩
    exact hd.normalize

/-- The spellings of a label are those without a plus sign. -/
theorem spells_twoDigits_iff : Spells TwoDigits s d ↔ Spells Octet s d ∧ '+' ∉ s.toList := by
  constructor
  · intro h
    obtain ⟨htext, hbefore, hafter, hsep, hsep', hfirst, hsecond, hthird⟩ := h
    rw [twoDigits_iff] at hfirst hsecond hthird
    refine ⟨.groups htext hbefore hafter hsep hsep' hfirst.1 hsecond.1 hthird.1, ?_⟩
    rw [htext]
    simp only [List.mem_append, List.mem_cons, not_or]
    refine ⟨⟨?_, hfirst.2, ?_, hsecond.2, ?_, hthird.2⟩, ?_⟩
    · intro hplus
      exact absurd (hbefore _ hplus) (by decide)
    · rcases hsep with rfl | rfl <;> decide
    · rcases hsep' with rfl | rfl <;> decide
    · intro hplus
      exact absurd (hafter _ hplus) (by decide)
  · rintro ⟨h, hplus⟩
    obtain ⟨htext, hbefore, hafter, hsep, hsep', hfirst, hsecond, hthird⟩ := h
    rw [htext] at hplus
    simp only [List.mem_append, List.mem_cons, not_or] at hplus
    obtain ⟨⟨-, hplus, -, hplus', -, hplus''⟩, -⟩ := hplus
    exact .groups htext hbefore hafter hsep hsep' (twoDigits_iff.mpr ⟨hfirst, hplus⟩)
      (twoDigits_iff.mpr ⟨hsecond, hplus'⟩) (twoDigits_iff.mpr ⟨hthird, hplus''⟩)

/-- To normalise a text again changes nothing. -/
theorem normalize?_idempotent (s : String) : (normalize? s).bind normalize? = normalize? s := by
  cases h : normalize? s with
  | none => rfl
  | some c =>
      obtain ⟨m, -, rfl⟩ := Option.map_eq_some_iff.mp h
      rw [Option.bind_some, normalize?_text]

/-- **What is read are three groups.**  A text has a written form exactly if it is three groups,
separated by colons or hyphens and with blanks around, where a group is two hexadecimal digits or a
plus sign and one; the written form is the digits in upper case with colons in between.  The text
has one as the grammar of labels says, two digits in every group, unless it has a plus sign in it
and is read nevertheless.  The written form is its own, and two texts have the same one exactly if
their digits are equal up to case. -/
theorem read_iff_three_groups (s : String) :
    (∀ c, normalize? s = some c ↔ ∃ d, Spells Octet s d ∧ c = d.upper.text) ∧
    ((∀ c, normalize? s = some c ↔ ∃ d, Spells TwoDigits s d ∧ c = d.upper.text)
      ↔ ('+' ∈ s.toList → normalize? s = none)) ∧
    (normalize? s).bind normalize? = normalize? s ∧
    ∀ s' d d', Spells Octet s d → Spells Octet s' d' →
      (normalize? s = normalize? s' ↔ d.upper = d'.upper) := by
  refine ⟨fun c => normalize?_iff_spells, ⟨?_, ?_⟩, normalize?_idempotent s, ?_⟩
  · intro hlabel hplus
    rw [Option.eq_none_iff_forall_ne_some]
    intro c hc
    obtain ⟨d, hd, -⟩ := (hlabel c).mp hc
    exact (spells_twoDigits_iff.mp hd).2 hplus
  · intro hplain c
    rw [normalize?_iff_spells]
    constructor
    · rintro ⟨d, hd, hc⟩
      have hplus : '+' ∉ s.toList := by
        intro hplus
        have hnone := hplain hplus
        rw [hd.normalize] at hnone
        cases hnone
      exact ⟨d, spells_twoDigits_iff.mpr ⟨hd, hplus⟩, hc⟩
    · rintro ⟨d, hd, hc⟩
      exact ⟨d, (spells_twoDigits_iff.mp hd).1, hc⟩
  · intro s' d d' h h'
    rw [h.normalize, h'.normalize, Option.some_inj]
    exact Digits.text_injective.eq_iff

/-- A text with blanks, both separators and digits of both cases, and one with a plus sign. -/
theorem read_iff_three_groups_spelled_twice :
    let d : Digits := { first := ('0', 'f'), second := ('3', '7'), third := ('A', '5') }
    let d' : Digits := { first := ('0', 'F'), second := ('3', '7'), third := ('a', '5') }
    Spells TwoDigits "\t0f-37:A5 " d ∧ Spells Octet "+F:37:a5" d' ∧
      normalize? "\t0f-37:A5 " = some "0F:37:A5" ∧
      normalize? "+F:37:a5" = normalize? "\t0f-37:A5 " := by
  intro d d'
  have h : Spells TwoDigits "\t0f-37:A5 " d :=
    @Spells.groups _ _ _ ['\t'] _ _ _ [' '] _ _ (by decide)
      (List.forall_mem_singleton.mpr (by decide)) (List.forall_mem_singleton.mpr (by decide))
      (Or.inr rfl) (Or.inl rfl) (.digits (by decide) (by decide)) (.digits (by decide) (by decide))
      (.digits (by decide) (by decide))
  have h' : Spells Octet "+F:37:a5" d' :=
    @Spells.groups _ _ _ [] _ _ _ [] _ _ (by decide) nofun nofun (Or.inl rfl) (Or.inl rfl)
      (.plus (by decide)) (.digits (by decide) (by decide)) (.digits (by decide) (by decide))
  obtain ⟨hoctets, hplus⟩ := spells_twoDigits_iff.mp h
  obtain ⟨-, hlabel, -⟩ := read_iff_three_groups "\t0f-37:A5 "
  obtain ⟨-, -, -, hsame⟩ := read_iff_three_groups "+F:37:a5"
  have hread := hlabel.mpr (fun hmem => absurd hmem hplus) d.upper.text
  have hwritten : d.upper.text = "0F:37:A5" := by decide
  have hupper : d'.upper = d.upper := by decide
  refine ⟨h, h', ?_, (hsame "\t0f-37:A5 " d' d h' hoctets).mpr hupper⟩
  rw [← hwritten]
  exact hread.mpr ⟨d, h, rfl⟩

/-- A text whose first group is not two digits has a written form, that of an address which other
texts spell with two digits in every group. -/
theorem plus_read_as_zero :
    normalize? "+a:37:a5" = some "0A:37:A5" ∧ (¬ ∃ d, Spells TwoDigits "+a:37:a5" d) ∧
      normalize? "0a:37:a5" = some "0A:37:A5" := by
  refine ⟨by decide, ?_, by decide⟩
  rintro ⟨d, hd⟩
  exact (spells_twoDigits_iff.mp hd).2 (by decide)

end MacSuffix

end SensorGateway
