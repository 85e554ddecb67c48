import SensorGateway.Bytes

/-!
# UTF-8

`Utf8.scan` cuts a byte string into characters and *faults*.  A fault is a longest beginning of a
character's encoding that does not go on as such an encoding must, or a single byte with which none
begins.  Overlong forms, surrogates and numbers above U+10FFFF are not encodings of characters, and
the second byte already tells them apart.  Read strictly, a text has no fault; read leniently, each
fault becomes one replacement character.
-/

namespace SensorGateway.Utf8

/-- What the first byte of an encoding of two to four bytes says. -/
structure Lead where
  /-- Its share of the code point. -/
  bits : Nat
  /-- The least second byte. -/
  least : Nat
  /-- The greatest second byte. -/
  greatest : Nat
  /-- The number of bytes after the second. -/
  further : Nat

/-- Reads a first byte that is not a character by itself. -/
def Lead.of? (b : Nat) : Option Lead :=
  if b < 0xC2 then none
  else if b < 0xE0 then some ⟨b - 0xC0, 0x80, 0xBF, 0⟩
  else if b = 0xE0 then some ⟨0, 0xA0, 0xBF, 1⟩
  else if b = 0xED then some ⟨0xD, 0x80, 0x9F, 1⟩
  else if b < 0xF0 then some ⟨b - 0xE0, 0x80, 0xBF, 1⟩
  else if b = 0xF0 then some ⟨0, 0x90, 0xBF, 2⟩
  else if b < 0xF4 then some ⟨b - 0xF0, 0x80, 0xBF, 2⟩
  else if b = 0xF4 then some ⟨4, 0x80, 0x8F, 2⟩
  else none

/-- Takes the given number of continuation bytes; what is left begins with the first byte that is
none. -/
def continuation : Nat → Nat → Bytes → Option Nat × Bytes
  | 0, point, rest => (some point, rest)
  | _ + 1, _, [] => (none, [])
  | n + 1, point, b :: rest =>
      if 0x80 ≤ b.toNat ∧ b.toNat ≤ 0xBF then continuation n (point * 64 + b.toNat % 64) rest
      else (none, b :: rest)

/-- Takes one character, or a fault, of which the first byte is given. -/
def first (b : UInt8) (rest : Bytes) : Option Char × Bytes :=
  if b.toNat < 0x80 then (some (Char.ofNat b.toNat), rest)
  else
    match Lead.of? b.toNat with
    | none => (none, rest)
    | some lead =>
        match rest with
        | [] => (none, [])
        | c :: rest' =>
            if lead.least ≤ c.toNat ∧ c.toNat ≤ lead.greatest then
              let (point, left) := continuation lead.further (lead.bits * 64 + c.toNat % 64) rest'
              (point.map Char.ofNat, left)
            else (none, c :: rest')

/-- Reading the rest of a sequence never adds to what is left to be read. -/
theorem length_continuation_le (n point : Nat) (bytes : Bytes) :
    (continuation n point bytes).2.length ≤ bytes.length := by
  induction n generalizing point bytes with
  | zero => simp [continuation]
  | succ n ih =>
    cases bytes with
    | nil => simp [continuation]
    | cons b rest =>
      simp only [continuation]
      split
      · exact Nat.le_succ_of_le (ih _ _)
      · simp

/-- Reading a first byte never adds to what is left to be read, so decoding comes to an end. -/
theorem length_first_le (b : UInt8) (rest : Bytes) : (first b rest).2.length ≤ rest.length := by
  simp only [first]
  split
  · simp
  · split
    · simp
    · split
      · simp
      · split
        · exact Nat.le_succ_of_le (length_continuation_le _ _ _)
        · simp

/-- The characters of a byte string, with `none` for each fault. -/
def scan (bytes : Bytes) : List (Option Char) :=
  match bytes with
  | [] => []
  | b :: rest => (first b rest).1 :: scan (first b rest).2
  termination_by bytes.length
  decreasing_by exact Nat.lt_succ_of_le (length_first_le b rest)

/-- The characters of a byte string, each fault replaced. -/
def decodeLossy (bytes : Bytes) : List Char :=
  (scan bytes).map (·.getD '\uFFFD')

/-- The characters of a byte string without fault. -/
def decode? (bytes : Bytes) : Option (List Char) :=
  (scan bytes).mapM id

end SensorGateway.Utf8
