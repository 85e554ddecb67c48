import SensorGateway.Battery.CellInfo

/-!
# What the decoders read

A checked read is an error where there is no byte.  Both decoders of a battery's answers look at the
length of the payload first, and then ask only for bytes that are there.  So no read of theirs is an
error (`HardwareInfo.exists_decode`, `CellInfo.decode_of_even`), and what they answer is said here
with reads that are not checked, `Bytes.byte` and `Bytes.word`.
-/

namespace SensorGateway

/-! ## Reads without a check -/

namespace Bytes

variable {ε : Type} [OutOfRange ε] {bytes p q : Bytes} {offset n : Nat}

/-- The byte at an offset, zero where there is none. -/
def byte (bytes : Bytes) (offset : Nat) : UInt8 := bytes.getD offset 0

/-- The word at an offset, high byte first. -/
def word (bytes : Bytes) (offset : Nat) : UInt16 :=
  Word.ofBytes (bytes.byte offset) (bytes.byte (offset + 1))

/-- Within the bytes, the byte at an offset is the one that stands there. -/
theorem getElem?_eq_some_byte (h : offset < bytes.length) :
    bytes[offset]? = some (bytes.byte offset) := by
  simp [byte, h]

/-- A checked read within the bytes gives the byte that stands there. -/
theorem byteAt_eq_byte (h : offset < bytes.length) :
    (bytes.byteAt offset : Except ε UInt8) = .ok (bytes.byte offset) :=
  byteAt_eq_ok bytes (getElem?_eq_some_byte h)

/-- A checked read of a word within the bytes gives the word that stands there. -/
theorem wordAt_eq_word (h : offset + 1 < bytes.length) :
    (bytes.wordAt offset : Except ε UInt16) = .ok (bytes.word offset) :=
  wordAt_eq_ok bytes (getElem?_eq_some_byte (Nat.lt_of_succ_lt h)) (getElem?_eq_some_byte h)

/-- A byte is the same wherever the bytes up to it are. -/
theorem byte_congr (h : p.take n = q.take n) (hoffset : offset < n) :
    p.byte offset = q.byte offset := by
  have hfront : (p.take n)[offset]? = (q.take n)[offset]? := by rw [h]
  rw [List.getElem?_take_of_lt hoffset, List.getElem?_take_of_lt hoffset] at hfront
  simp only [byte, List.getD_eq_getElem?_getD, hfront]

/-- Payloads that begin alike have the same words as far as they do. -/
theorem word_congr (h : p.take n = q.take n) (hoffset : offset + 1 < n) :
    p.word offset = q.word offset := by
  rw [word, word, byte_congr h (Nat.lt_of_succ_lt hoffset), byte_congr h hoffset]

end Bytes

/-- Where there is no error for an element, there is none for the list. -/
theorem mapM_eq_ok {α β ε : Type} {f : α → Except ε β} {g : α → β} (xs : List α)
    (h : ∀ x ∈ xs, f x = .ok (g x)) : xs.mapM f = .ok (xs.map g) := by
  induction xs with
  | nil => rfl
  | cons x xs ih =>
      obtain ⟨hx, hxs⟩ := List.forall_mem_cons.mp h
      rw [List.mapM_cons, hx, ih hxs]
      rfl

/-! ## The state of the pack -/

namespace HardwareInfo

variable {payload : Bytes}

/-- The words behind the fixed part that are probes. -/
def probeWords (payload : Bytes) : List UInt16 :=
  (List.range (probeCount (payload.byte 22).toNat payload.length)).map fun i =>
    payload.word (fixedLength + 2 * i)

/-- The state of a pack is the one that a payload holds. -/
structure ReadFrom (info : HardwareInfo) (payload : Bytes) : Prop where
  totalVoltage : info.totalVoltage = hundredths (payload.word 0).toNat
  current : info.current = hundredths (Word.signed (payload.word 2))
  power : info.power
    = hundredths (payload.word 0).toNat * hundredths (Word.signed (payload.word 2))
  remainingCapacity : info.remainingCapacity = hundredths (payload.word 4).toNat
  nominalCapacity : info.nominalCapacity = hundredths (payload.word 6).toNat
  cycles : info.cycles = payload.word 8
  manufactureDate : info.manufactureDate = unpackDate (payload.word 10)
  balanceStatus : info.balanceStatus
    = UInt32.ofNat ((payload.word 12).toNat + (payload.word 14).toNat * 65536)
  errors : info.errors = payload.word 16
  softwareVersion : info.softwareVersion
    = Float.ofNat ((payload.byte 18).toNat / 16) + Float.ofNat ((payload.byte 18).toNat % 16) * 0.1
  soc : info.soc = payload.byte 19
  charging : info.charging = (payload.byte 20).toNat.testBit 0
  discharging : info.discharging = (payload.byte 20).toNat.testBit 1
  cellStringCount : info.cellStringCount = payload.byte 21
  temperatures : info.temperatures = (probeWords payload).map probe

/-- A payload tells one state of the hardware. -/
theorem ReadFrom.unique {info info' : HardwareInfo} (h : info.ReadFrom payload)
    (h' : info'.ReadFrom payload) : info = info' := by
  cases info
  cases info'
  cases h
  cases h'
  simp_all only

/-- Every payload that is long enough is decoded. -/
theorem exists_decode (h : fixedLength ≤ payload.length) :
    ∃ info, decode payload = .ok info ∧ info.ReadFrom payload := by
  have hlong : ¬ payload.length < fixedLength := Nat.not_lt.mpr h
  simp only [fixedLength] at h
  have word (offset : Nat) (hoffset : offset ≤ 16) :
      (payload.wordAt offset : Except DecodeError UInt16) = .ok (payload.word offset) :=
    Bytes.wordAt_eq_word (by omega)
  have byte (offset : Nat) (hoffset : offset ≤ 22) :
      (payload.byteAt offset : Except DecodeError UInt8) = .ok (payload.byte offset) :=
    Bytes.byteAt_eq_byte (by omega)
  have probes := mapM_eq_ok
    (f := fun i => (payload.wordAt (fixedLength + 2 * i) : Except DecodeError UInt16))
    (g := fun i => payload.word (fixedLength + 2 * i))
    (List.range (probeCount (payload.byte 22).toNat payload.length)) fun i hi => by
      refine Bytes.wordAt_eq_word ?_
      simp only [List.mem_range, probeCount, fixedLength] at hi ⊢
      omega
  rw [decode, if_neg hlong, word 0 (by decide), word 2 (by decide), word 4 (by decide),
    word 6 (by decide), word 8 (by decide), word 10 (by decide), word 12 (by decide),
    word 14 (by decide), word 16 (by decide), byte 18 (by decide), byte 19 (by decide),
    byte 20 (by decide), byte 21 (by decide), byte 22 (by decide)]
  simp only [bind, Except.bind]
  rw [probes]
  refine ⟨_, rfl, ?_⟩
  constructor <;> rfl

/-- A payload without all of its fixed part is refused. -/
theorem decode_of_short (h : payload.length < fixedLength) :
    decode payload = .error (.tooShort fixedLength payload.length) :=
  if_pos h

/-- A payload with its fixed part is decoded into what it tells. -/
theorem decode_eq_ok_iff {info : HardwareInfo} :
    decode payload = .ok info ↔ fixedLength ≤ payload.length ∧ info.ReadFrom payload := by
  constructor
  · intro h
    have hlong : fixedLength ≤ payload.length := by
      refine Nat.not_lt.mp fun hshort => ?_
      rw [decode_of_short hshort] at h
      cases h
    obtain ⟨info', hinfo', hread⟩ := exists_decode hlong
    rw [hinfo'] at h
    cases h
    exact ⟨hlong, hread⟩
  · rintro ⟨hlong, hread⟩
    obtain ⟨info', hinfo', hread'⟩ := exists_decode hlong
    rw [hinfo', hread.unique hread']

end HardwareInfo

/-! ## Cell voltages -/

namespace CellInfo

variable {α : Type} [Scalar α] {payload : Bytes}

/-- The words of a payload that are cells. -/
def codes (payload : Bytes) : List UInt16 :=
  (List.range (Min.min (payload.length / 2) maxCells)).map fun i => payload.word (2 * i)

/-- Every payload of one or more whole cells is decoded. -/
theorem decode_of_even (hlong : 2 ≤ payload.length) (heven : payload.length % 2 = 0) :
    ∃ first rest, codes payload = first :: rest ∧
      (decode payload : Except DecodeError (CellInfo α))
        = .ok (ofVoltages (volts first) (rest.map volts)) := by
  obtain ⟨others, hcount⟩ : ∃ others, Min.min (payload.length / 2) maxCells = others + 1 :=
    Nat.exists_eq_succ_of_ne_zero (by simp only [maxCells]; omega)
  have word (i : Nat) (hi : i < others + 1) :
      (payload.wordAt (2 * i) : Except DecodeError UInt16) = .ok (payload.word (2 * i)) :=
    Bytes.wordAt_eq_word (by omega)
  have hrest := mapM_eq_ok
    (f := fun i => (payload.wordAt (2 * (i + 1)) : Except DecodeError UInt16))
    (g := fun i => payload.word (2 * (i + 1))) (List.range others) fun i hi =>
      word (i + 1) (Nat.succ_lt_succ (List.mem_range.mp hi))
  refine ⟨payload.word 0, (List.range others).map fun i => payload.word (2 * (i + 1)), ?_, ?_⟩
  · rw [codes, hcount, List.range_succ_eq_map, List.map_cons, List.map_map]
    rfl
  · rw [decode, if_neg (Nat.not_lt.mpr hlong), if_neg (not_not_intro heven), hcount,
      word 0 (Nat.succ_pos others)]
    simp only [bind, Except.bind, Nat.add_sub_cancel]
    rw [hrest]
    rfl

/-- A payload that has no whole words, or no bytes at all, is refused. -/
theorem exists_error_of_odd (h : payload = [] ∨ payload.length % 2 = 1) :
    ∃ e, (decode payload : Except DecodeError (CellInfo α)) = .error e := by
  unfold decode
  by_cases hshort : payload.length < 2
  · exact ⟨_, if_pos hshort⟩
  · have hodd : payload.length % 2 ≠ 0 := by
      rcases h with rfl | h
      · exact absurd Nat.two_pos hshort
      · omega
    rw [if_neg hshort]
    exact ⟨_, if_pos hodd⟩

end CellInfo

end SensorGateway
