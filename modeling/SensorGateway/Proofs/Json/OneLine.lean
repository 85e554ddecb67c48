import Mathlib.Data.List.Basic
import SensorGateway.Bus.Delivery
import SensorGateway.Proofs.Text.Utf8

/-!
# JSON text has no line break

Strings are escaped, and whatever else a text is made of has no line break either: brackets, commas,
colons, and the characters of numbers.  So the text of a delivery is one line, and so are the bytes
of it, since UTF-8 uses the byte 10 for nothing but the line feed.
-/

namespace SensorGateway

/-- A text without line breaks. -/
def OneLine (text : String) : Prop := '\n' ∉ text.toList

instance (text : String) : Decidable (OneLine text) :=
  inferInstanceAs (Decidable ('\n' ∉ text.toList))

/-- Two texts without newlines have none together. -/
theorem OneLine.append {s t : String} (hs : OneLine s) (ht : OneLine t) : OneLine (s ++ t) := by
  unfold OneLine
  rw [String.toList_append, List.mem_append]
  exact not_or_intro hs ht

/-- A text has no newline if none of its characters is one. -/
theorem oneLine_ofList {chars : List Char} : OneLine (.ofList chars) ↔ '\n' ∉ chars := by
  rw [OneLine, String.toList_ofList]

/-- Texts without newlines have none when they are joined by a separator without one. -/
theorem oneLine_intercalate {separator : String} (hseparator : OneLine separator)
    {texts : List String} (htexts : ∀ text ∈ texts, OneLine text) :
    OneLine (separator.intercalate texts) := by
  induction texts with
  | nil =>
      rw [String.intercalate_nil]
      decide
  | cons text texts ih =>
      obtain ⟨htext, htexts⟩ := List.forall_mem_cons.mp htexts
      cases texts with
      | nil =>
          rw [String.intercalate_singleton]
          exact htext
      | cons next rest =>
          rw [String.intercalate_cons_cons]
          exact (htext.append hseparator).append (ih htexts)

/-! ## Numbers -/

/-- A natural number is written without newlines, -/
theorem oneLine_nat (n : Nat) : OneLine (toString n) := by
  intro hmem
  rw [Nat.toString_eq_repr, Nat.toList_repr] at hmem
  have hdigit := Nat.isDigit_of_mem_toDigits (by decide) (by decide) hmem
  exact absurd hdigit (by decide)

/-- and so is an integer. -/
theorem oneLine_int (n : Int) : OneLine (toString n) := by
  rw [Int.toString_eq_repr, Int.repr_eq_if]
  split
  · exact oneLine_nat _
  · have hminus : OneLine "-" := by decide
    exact hminus.append (oneLine_nat _)

namespace Layout

/-- Digits are written without newlines. -/
theorem oneLine_digitText (digits : List Nat) : OneLine (digitText digits) := by
  rw [digitText, oneLine_ofList, List.mem_map]
  rintro ⟨digit, -, hdigit⟩
  exact Nat.digitChar_ne '\n' rfl hdigit

/-- A decimal is written without newlines if the marks of its exponent have none. -/
theorem oneLine_decimal {layout : Layout} (hpositive : OneLine layout.positiveMark)
    (hnegative : OneLine layout.negativeMark) (d : Decimal) : OneLine (layout.decimal d) := by
  have hpoint : OneLine "." := by decide
  have hbelow : OneLine "0." := by decide
  unfold decimal
  split
  · split
    · exact hbelow.append (oneLine_digitText _)
    · refine ((oneLine_digitText _).append hpoint).append ?_
      split
      · decide
      · exact oneLine_digitText _
  · refine (((oneLine_digitText _).append ?_).append ?_).append (oneLine_nat _)
    · split
      · decide
      · exact hpoint.append (oneLine_digitText _)
    · split
      · exact hnegative
      · exact hpositive

/-- So is a double, if it can be written at all. -/
theorem oneLine_float? {layout : Layout} (hpositive : OneLine layout.positiveMark)
    (hnegative : OneLine layout.negativeMark) (x : Float) :
    ∀ text ∈ layout.float? x, OneLine text := by
  intro text htext
  unfold float? at htext
  split at htext
  · obtain rfl := Option.some.inj htext
    refine OneLine.append ?_ ?_
    · split <;> decide
    · split
      · decide
      · exact oneLine_decimal hpositive hnegative _
  · cases htext

end Layout

/-! ## Values -/

/-- Digits of another base have no line break either. -/
theorem Hex.newline_notMem_fixed (width n : Nat) : '\n' ∉ Hex.fixed width n := by
  induction width generalizing n with
  | zero => exact List.not_mem_nil
  | succ width ih =>
      rw [Hex.fixed, List.mem_append, List.mem_singleton]
      rintro (hmem | hdigit)
      · exact ih _ hmem
      · exact Nat.digitChar_ne '\n' rfl hdigit.symm

namespace Json

/-- Newlines are escaped, and no escape has one. -/
theorem newline_notMem_escape (c : Char) : '\n' ∉ escape c := by
  unfold escape
  split_ifs with hquote hbackslash h8 hc hn hr ht hlow
  · decide
  · decide
  · decide
  · decide
  · decide
  · decide
  · decide
  · rw [List.mem_cons, List.mem_cons]
    rintro (hmem | hmem | hmem)
    · exact absurd hmem (by decide)
    · exact absurd hmem (by decide)
    · exact Hex.newline_notMem_fixed _ _ hmem
  · exact fun hmem => hn (List.mem_singleton.mp hmem).symm

/-- A quoted text has no newline. -/
theorem oneLine_quoted (s : String) : OneLine (quoted s) := by
  rw [quoted, oneLine_ofList, List.mem_append, List.mem_cons, List.mem_flatMap, List.mem_singleton]
  rintro ((hquote | ⟨c, -, hc⟩) | hquote)
  · exact absurd hquote (by decide)
  · exact newline_notMem_escape c hc
  · exact absurd hquote (by decide)

mutual

/-- A value is written on one line, -/
theorem oneLine_text : ∀ j : Json, OneLine j.text
  | null => by decide +kernel
  | bool true => by decide +kernel
  | bool false => by decide +kernel
  | integer n => oneLine_int n
  | float x => by
      have hpositive : OneLine Layout.json.positiveMark := by decide
      have hnegative : OneLine Layout.json.negativeMark := by decide
      have hfloat := Layout.oneLine_float? hpositive hnegative x
      rw [text]
      cases htext : Layout.json.float? x with
      | none => decide
      | some s => exact hfloat s htext
  | string s => oneLine_quoted s
  | array items => by
      have hopening : OneLine "[" := by decide
      have hcomma : OneLine "," := by decide
      have hitems := oneLine_intercalate hcomma (oneLine_itemTexts items)
      rw [text]
      exact (hopening.append hitems).append (by decide)
  | object members => by
      have hopening : OneLine "\x7b" := by decide
      have hcomma : OneLine "," := by decide
      have hmembers := oneLine_intercalate hcomma (oneLine_memberTexts members)
      rw [text]
      exact (hopening.append hmembers).append (by decide)

/-- and so are the items of an array -/
theorem oneLine_itemTexts : ∀ items : List Json, ∀ text ∈ itemTexts items, OneLine text
  | [] => nofun
  | item :: items => List.forall_mem_cons.mpr ⟨oneLine_text item, oneLine_itemTexts items⟩

/-- and the members of an object. -/
theorem oneLine_memberTexts :
    ∀ members : List (String × Json), ∀ text ∈ memberTexts members, OneLine text
  | [] => nofun
  | (key, value) :: members => by
      have hcolon : OneLine ":" := by decide
      have hmember := ((oneLine_quoted key).append hcolon).append (oneLine_text value)
      exact List.forall_mem_cons.mpr ⟨hmember, oneLine_memberTexts members⟩

end

end Json

/-- A delivery is written as the object that it is. -/
theorem Delivery.text_eq (d : Delivery) :
    d.text = (Json.object [("topic", .string d.topic), ("payload", d.payload)]).text := by
  have htopic : Json.quoted "topic" = "\"topic\"" := by decide +kernel
  have hpayload : Json.quoted "payload" = "\"payload\"" := by decide +kernel
  have hfirst : "\x7b\"topic\":" = "\x7b" ++ ("\"topic\"" ++ ":") := by decide +kernel
  have hsecond : ",\"payload\":" = "," ++ ("\"payload\"" ++ ":") := by decide +kernel
  rw [text, Json.text, Json.memberTexts, Json.memberTexts, Json.memberTexts, Json.text, htopic,
    hpayload, hfirst, hsecond, String.intercalate_cons_cons, String.intercalate_singleton]
  simp only [String.append_assoc]

/-! ## Bytes -/

/-- Only the line feed is encoded with the byte of the line feed. -/
theorem linefeed_notMem_utf8EncodeChar {c : Char} (hc : c ≠ '\n') :
    (10 : UInt8) ∉ String.utf8EncodeChar c := by
  have hpoint : c.val.toNat ≠ 10 := fun h => hc (Char.ext (UInt32.toNat_inj.mp h))
  have hbyte : (10 : UInt8).toNat = 10 := rfl
  unfold String.utf8EncodeChar
  intro hmem
  dsimp only at hmem
  -- The lead byte of a longer code is above 127, and so are the bytes after it.
  split_ifs at hmem <;>
    simp only [List.mem_cons, List.not_mem_nil, or_false, ← UInt8.toNat_inj,
      UInt8.toNat_ofNat'] at hmem <;>
    omega

/-- The bytes of a text without newlines have none. -/
theorem OneLine.linefeed_notMem_toUTF8 {s : String} (h : OneLine s) :
    (10 : UInt8) ∉ s.toUTF8.toList := by
  rw [toList_toUTF8, List.mem_flatMap]
  rintro ⟨c, hc, hmem⟩
  refine linefeed_notMem_utf8EncodeChar (fun heq => ?_) hmem
  exact h (heq ▸ hc)

end SensorGateway
