import SensorGateway.Battery.DeviceName
import SensorGateway.Proofs.Text.Trim
import SensorGateway.Proofs.Text.Utf8

/-!
# What can stand at the ends of a name

The zeros at the end of a payload go first, and then the blanks, each of them once.  So a name has
no blank at its ends, but blanks behind a zero keep it in the name: the zeros behind the blanks go,
the blanks go, and nothing looks for zeros again.  These are the names that change when they are
decoded once more.
-/

namespace SensorGateway.DeviceName

open Text

variable {text : List Char} {name : String}

/-- The text ends with a NUL, then blanks, at least one, and then any number of NULs. -/
def BlankAfterNul (text : List Char) : Prop :=
  ∃ front blanks nuls, text = front ++ '\x00' :: (blanks ++ nuls) ∧ blanks ≠ [] ∧
    (∀ c ∈ blanks, isBlank c = true) ∧ ∀ c ∈ nuls, c = '\x00'

/-! ## Zeros -/

/-- A NUL is not a blank. -/
theorem isBlank_nul : isBlank '\x00' = false := by decide

/-- That the last character is no NUL can be said with or without a test. -/
theorem forall_not_nul_iff {c? : Option Char} :
    (∀ c ∈ c?, (c == '\x00') = false) ↔ c? ≠ some '\x00' := by
  constructor
  · intro h hnul
    exact absurd (h '\x00' hnul) (by decide)
  · intro h c hc
    refine beq_eq_false_iff_ne.mpr ?_
    rintro rfl
    exact h hc

/-- A text from which the NULs at its end have been dropped does not end with one. -/
theorem getLast?_dropEnd_nul (text : List Char) :
    (dropEnd (· == '\x00') text).getLast? ≠ some '\x00' :=
  forall_not_nul_iff.mp (last_dropEnd text)

/-- Behind a NUL that is left there were blanks, and behind these nothing but NULs. -/
theorem blankAfterNul_of_left (h : (trim (dropEnd (· == '\x00') text)).getLast? = some '\x00') :
    BlankAfterNul text := by
  obtain ⟨nuls, htext, hnuls⟩ := exists_dropEnd_append (· == '\x00') text
  obtain ⟨before, blanks, hdrop, -, hblanks⟩ := exists_trim_append (dropEnd (· == '\x00') text)
  obtain ⟨core, hcore⟩ := List.getLast?_eq_some_iff.mp h
  rw [hcore] at hdrop
  refine ⟨before ++ core, blanks, nuls, ?_, ?_, hblanks, fun c hc => beq_iff_eq.mp (hnuls c hc)⟩
  · rw [htext, hdrop]
    simp only [List.append_assoc, List.cons_append, List.nil_append]
  · -- Without blanks behind it the NUL would have gone with the others.
    rintro rfl
    apply getLast?_dropEnd_nul text
    rw [hdrop, List.append_nil, ← List.append_assoc, List.getLast?_concat]

/-- Blanks behind a NUL keep it. -/
theorem BlankAfterNul.left (h : BlankAfterNul text) :
    (trim (dropEnd (· == '\x00') text)).getLast? = some '\x00' := by
  obtain ⟨front, blanks, nuls, rfl, hne, hblanks, hnuls⟩ := h
  have hlast : (front ++ '\x00' :: blanks).getLast? ≠ some '\x00' := by
    intro hnul
    rw [List.append_cons, List.getLast?_append, List.getLast?_eq_some_getLast hne,
      Option.some_or] at hnul
    have hblank := hblanks _ (List.getLast_mem hne)
    rw [Option.some.inj hnul, isBlank_nul] at hblank
    cases hblank
  have hdrop : dropEnd (· == '\x00') (front ++ '\x00' :: blanks ++ nuls)
      = front ++ '\x00' :: blanks :=
    dropEnd_append_core (forall_not_nul_iff.mpr hlast) fun c hc => beq_iff_eq.mpr (hnuls c hc)
  rw [← List.cons_append, ← List.append_assoc, hdrop]
  exact getLast?_trim_append_cons isBlank_nul hblanks

/-! ## Names -/

/-- A name is the text of the payload, first without the NULs at its end and then without blanks. -/
theorem toList_decode (payload : Bytes) :
    (decode payload).toList = trim (dropEnd (· == '\x00') (Utf8.decodeLossy payload)) := by
  rw [decode, String.toList_ofList]

/-- A name has no blanks around it. -/
theorem trimmed_decode (payload : Bytes) : Trimmed (decode payload).toList := by
  rw [toList_decode]
  exact trimmed_trim _

/-- A NUL stays at the end of a name if blanks were behind it. -/
theorem getLast?_decode_eq_nul_iff (payload : Bytes) :
    (decode payload).toList.getLast? = some '\x00' ↔
      BlankAfterNul (Utf8.decodeLossy payload) := by
  rw [toList_decode]
  exact ⟨blankAfterNul_of_left, BlankAfterNul.left⟩

/-- A name without blanks at its ends is decoded to itself unless a NUL is at its end, which is
taken now. -/
theorem decode_toUTF8_eq_iff (h : Trimmed name.toList) :
    decode name.toUTF8.toList = name ↔ name.toList.getLast? ≠ some '\x00' := by
  rw [← String.toList_inj, toList_decode, Utf8.decodeLossy_toUTF8]
  constructor
  · intro hsame
    obtain ⟨nuls, hname, -⟩ := exists_dropEnd_append (· == '\x00') name.toList
    have hshort := length_trim_le (dropEnd (· == '\x00') name.toList)
    have hlength := congrArg List.length hname
    rw [hsame] at hshort
    rw [List.length_append] at hlength
    obtain rfl := List.eq_nil_of_length_eq_zero (show nuls.length = 0 by omega)
    rw [List.append_nil] at hname
    rw [hname]
    exact getLast?_dropEnd_nul name.toList
  · intro hnul
    rw [dropEnd_of_last (forall_not_nul_iff.mpr hnul), h.trim_eq]

/-- **A blank behind a NUL keeps it.**  A name has no blank at either end.  It ends with a NUL
exactly if there is, at the end of the text in the payload and before any further NULs, a blank
behind a NUL; and exactly the other names are left as they are when their bytes are decoded. -/
theorem nul_left_iff_blank_behind (payload : Bytes) :
    (∀ c ∈ (decode payload).toList.head?, isBlank c = false) ∧
    (∀ c ∈ (decode payload).toList.getLast?, isBlank c = false) ∧
    ((decode payload).toList.getLast? = some '\x00' ↔ BlankAfterNul (Utf8.decodeLossy payload)) ∧
    (decode (decode payload).toUTF8.toList = decode payload ↔
      (decode payload).toList.getLast? ≠ some '\x00') := by
  have htrimmed := trimmed_decode payload
  exact ⟨htrimmed.head, htrimmed.last, getLast?_decode_eq_nul_iff payload,
    decode_toUTF8_eq_iff htrimmed⟩

/-- The name of a payload with one letter, a zero and a space has the zero at its end, and without
it when it is decoded once more. -/
theorem nul_left_before_space :
    decode [0x41, 0x00, 0x20] = "A\x00" ∧ decode "A\x00".toUTF8.toList = "A" := by
  decide +kernel

end SensorGateway.DeviceName
