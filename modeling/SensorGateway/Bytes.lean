/-!
# Bytes and the words made of them

Everything a radio hands over is a list of bytes.  A decoder reads it by offset, and every read here
is *checked*: `byteAt`, `wordAt` and `slice` answer an error of the decoder's own when the offset
lies outside the list, so that "a decoder never looks outside its payload" is a statement about the
errors it can return, and not something that the reader has to take on trust.

Two-byte words occur in both byte orders, `Word.ofBytes` with the high byte first being the common
one.
-/

namespace SensorGateway

/-- A byte string as received or sent. -/
abbrev Bytes := List UInt8

namespace Word

/-- The word with the given high and low byte. -/
def ofBytes (high low : UInt8) : UInt16 :=
  UInt16.ofNat (high.toNat * 256 + low.toNat)

/-- The high byte of a word. -/
def high (w : UInt16) : UInt8 := UInt8.ofNat (w.toNat / 256)

/-- The low byte of a word. -/
def low (w : UInt16) : UInt8 := UInt8.ofNat (w.toNat % 256)

/-- A word as it is sent, high byte first. -/
def toBytes (w : UInt16) : Bytes := [high w, low w]

/-- The value of a word read as a two's complement number. -/
def signed (w : UInt16) : Int := Int.bmod w.toNat 65536

/-- The high byte of a word counts for 256 times its value. -/
theorem toNat_ofBytes (h l : UInt8) : (ofBytes h l).toNat = h.toNat * 256 + l.toNat := by
  have := h.toNat_lt
  have := l.toNat_lt
  simp only [ofBytes, UInt16.toNat_ofNat']
  omega

/-- The high byte is what is left of a word when its last eight bits are dropped. -/
theorem toNat_high (w : UInt16) : (high w).toNat = w.toNat / 256 := by
  have := w.toNat_lt
  simp only [high, UInt8.toNat_ofNat']
  omega

/-- The low byte is the last eight bits of a word. -/
theorem toNat_low (w : UInt16) : (low w).toNat = w.toNat % 256 := by
  simp only [low, UInt8.toNat_ofNat']
  omega

/-- A word is put together again from its two bytes. -/
@[simp] theorem ofBytes_high_low (w : UInt16) : ofBytes (high w) (low w) = w := by
  apply UInt16.toNat_inj.mp
  rw [toNat_ofBytes, toNat_high, toNat_low]
  omega

/-- The high byte that a word was made of is found in it again. -/
@[simp] theorem high_ofBytes (h l : UInt8) : high (ofBytes h l) = h := by
  have := l.toNat_lt
  apply UInt8.toNat_inj.mp
  rw [toNat_high, toNat_ofBytes]
  omega

/-- So is the low byte. -/
@[simp] theorem low_ofBytes (h l : UInt8) : low (ofBytes h l) = l := by
  have := l.toNat_lt
  apply UInt8.toNat_inj.mp
  rw [toNat_low, toNat_ofBytes]
  omega

end Word

/-! ## Checked reads -/

/-- Errors that can say that a byte was asked for at an offset where there is none. -/
class OutOfRange (ε : Type) where
  /-- The error for a read at the given offset. -/
  outOfRange : Nat → ε

namespace Bytes

variable {ε : Type} [OutOfRange ε]

/-- The byte at an offset. -/
def byteAt (bytes : Bytes) (offset : Nat) : Except ε UInt8 :=
  match bytes[offset]? with
  | some b => .ok b
  | none => .error (OutOfRange.outOfRange offset)

/-- The word at an offset, high byte first. -/
def wordAt (bytes : Bytes) (offset : Nat) : Except ε UInt16 := do
  let high ← bytes.byteAt offset
  let low ← bytes.byteAt (offset + 1)
  return Word.ofBytes high low

/-- The bytes from `start` up to, and not including, `stop`. -/
def slice (bytes : Bytes) (start stop : Nat) : Except ε Bytes :=
  if start ≤ stop ∧ stop ≤ bytes.length then
    .ok ((bytes.drop start).take (stop - start))
  else
    .error (OutOfRange.outOfRange stop)

/-- A byte that is there can be read. -/
theorem byteAt_eq_ok (bytes : Bytes) {offset : Nat} {b : UInt8} (h : bytes[offset]? = some b) :
    (bytes.byteAt offset : Except ε UInt8) = .ok b := by
  simp [byteAt, h]

/-- A word of which both bytes are there can be read. -/
theorem wordAt_eq_ok (bytes : Bytes) {offset : Nat} {high low : UInt8}
    (hh : bytes[offset]? = some high) (hl : bytes[offset + 1]? = some low) :
    (bytes.wordAt offset : Except ε UInt16) = .ok (Word.ofBytes high low) := by
  rw [wordAt, byteAt_eq_ok bytes hh, byteAt_eq_ok bytes hl]
  rfl

/-- A slice that ends within the bytes can be read. -/
theorem slice_eq_ok (bytes : Bytes) {start stop : Nat} (h : start ≤ stop)
    (hs : stop ≤ bytes.length) :
    (bytes.slice start stop : Except ε Bytes) = .ok ((bytes.drop start).take (stop - start)) := by
  simp [slice, h, hs]

end Bytes

end SensorGateway
