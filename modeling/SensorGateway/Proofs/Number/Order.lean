import Mathlib
import SensorGateway.Proofs.Number.Rounding

/-!
# The total order of numbers

Numbers are sorted by a total order, `Scalar.atMost`, and compared by `≤` everywhere else.  For doubles
these are two orders: the first looks at the bits, in which the negative zero comes before the positive
one, and the second at the value.  Finite doubles that are in the first order are in the second
(`Scalar.le_of_rank_le`): the bits of a double, without the sign, are its exponent followed by its
mantissa, and of two doubles the one with the greater exponent has the greater magnitude.
-/

namespace SensorGateway

namespace Scalar

/-- The total order is one, and on finite numbers it is not at odds with `≤`. -/
class LawfulOrder (α : Type) [Scalar α] : Prop where
  atMost_trans (x y z : α) : atMost x y = true → atMost y z = true → atMost x z = true
  atMost_total (x y : α) : (atMost x y || atMost y x) = true
  atMost_antisymm (x y : α) : atMost x y = true → atMost y x = true → x = y
  le_of_atMost (x y : α) : isFinite x = true → isFinite y = true → atMost x y = true → x ≤ y

instance : LawfulOrder Rat where
  atMost_trans _ _ _ hxy hyz := decide_eq_true ((of_decide_eq_true hxy).trans (of_decide_eq_true hyz))
  atMost_total x y := by
    rcases le_total x y with h | h
    · exact Bool.or_eq_true_iff.mpr (Or.inl (decide_eq_true h))
    · exact Bool.or_eq_true_iff.mpr (Or.inr (decide_eq_true h))
  atMost_antisymm _ _ hxy hyx := le_antisymm (of_decide_eq_true hxy) (of_decide_eq_true hyx)
  le_of_atMost _ _ _ _ h := of_decide_eq_true h

/-- Of two finite numbers one is not above the other. -/
theorem le_total_of_isFinite {α : Type} [Scalar α] [LawfulOrder α] {x y : α}
    (hx : isFinite x = true) (hy : isFinite y = true) : x ≤ y ∨ y ≤ x := by
  rcases Bool.or_eq_true_iff.mp (LawfulOrder.atMost_total x y) with h | h
  · exact Or.inl (LawfulOrder.le_of_atMost x y hx hy h)
  · exact Or.inr (LawfulOrder.le_of_atMost y x hy hx h)

/-! ## The bits of a double -/

section Double

open Float.Model (UnpackedFloat)
open Float.Model.UnpackedFloat (Sign unpackExponent unpackExponent_def unpackMantissa
  unpackMantissa_def unpackSign unpackSign_def)

/-- The sign that bits have. -/
def signOf (bits : Nat) : Sign := if bits < 2 ^ 63 then .positive else .negative

/-- A finite double has a sign and a magnitude: it is zero, or a mantissa at a place `k` places above
the lowest one, and then the magnitude's bits are `k` in the upper part and the mantissa in the
lower, where its highest bit carries over into the upper. -/
inductive Holds (s : Sign) (magnitude : Nat) : UnpackedFloat → Prop
  | zero (h : magnitude = 0) : Holds s magnitude (.zero s)
  | finite (k m : Nat) (hpos : 0 < m) (h : magnitude = k * 2 ^ 52 + m) (hm : m < 2 ^ 53)
      (hk : k = 0 ∨ 2 ^ 52 ≤ m) : Holds s magnitude (.finite s m ((k : Int) - 1074) hpos)

variable (b : BitVec 64)

/-- The exponent of a double are the eleven bits below its sign. -/
theorem toNat_unpackExponent :
    (@unpackExponent .binary64 b).toNat = b.toNat / 2 ^ 52 % 2 ^ 11 := by
  rw [unpackExponent_def, BitVec.extractLsb'_toNat, Nat.shiftRight_eq_div_pow]

/-- Its mantissa are the last 52 bits. -/
theorem toNat_unpackMantissa : (@unpackMantissa .binary64 b).toNat = b.toNat % 2 ^ 52 := by
  rw [unpackMantissa_def, BitVec.extractLsb'_toNat, Nat.shiftRight_zero]

/-- Its sign is the first bit. -/
theorem toNat_unpackSign : (@unpackSign .binary64 b).toNat = b.toNat / 2 ^ 63 := by
  have hlt := b.isLt
  rw [unpackSign_def, BitVec.extractLsb'_toNat, Nat.shiftRight_eq_div_pow]
  show b.toNat / 2 ^ 63 % 2 = b.toNat / 2 ^ 63
  omega

/-- The first bit says which sign it is. -/
theorem sign_eq_signOf : Sign.ofBitVec (@unpackSign .binary64 b) = signOf b.toNat := by
  have hsign := toNat_unpackSign b
  unfold Sign.ofBitVec signOf
  by_cases h : b.toNat < 2 ^ 63
  · have hzero : @unpackSign .binary64 b = 0#1 := by
      apply BitVec.eq_of_toNat_eq
      rw [hsign, Nat.div_eq_of_lt h]
      rfl
    rw [if_pos hzero, if_pos h]
  · have hone : @unpackSign .binary64 b ≠ 0#1 := by
      intro hzero
      rw [hzero, BitVec.toNat_ofNat] at hsign
      omega
    rw [if_neg hone, if_neg h]

/-- The bits of a finite double, without the sign, are its magnitude. -/
theorem holds_unpack (h : (UnpackedFloat.unpack .binary64 b).isFinite = true) :
    Holds (signOf b.toNat) (b.toNat % 2 ^ 63) (UnpackedFloat.unpack .binary64 b) := by
  have hexponent := toNat_unpackExponent b
  have hmantissa := toNat_unpackMantissa b
  unfold UnpackedFloat.unpack at h ⊢
  dsimp only at h ⊢
  rw [sign_eq_signOf] at h ⊢
  -- with the highest exponent a double is infinite or not a number
  split at h
  next => split at h <;> cases h
  next hfinite =>
  rw [if_neg hfinite]
  split
  next he =>
    -- with the lowest one the mantissa is written as it is
    have hzero : (@unpackExponent .binary64 b).toNat = 0 := by
      rw [he]
      rfl
    split
    next hm =>
      have hnone : (@unpackMantissa .binary64 b).toNat = 0 := by
        rw [hm]
        rfl
      exact .zero (by omega)
    next hm =>
      have hpos : 0 < (@unpackMantissa .binary64 b).toNat :=
        Nat.pos_of_ne_zero fun hnone => hm (BitVec.eq_of_toNat_eq hnone)
      rw [hzero]
      exact .finite 0 _ hpos (by omega) (by omega) (Or.inl rfl)
  next he =>
    -- else its highest bit is left out
    have hne : (@unpackExponent .binary64 b).toNat ≠ 0 :=
      fun hzero => he (BitVec.eq_of_toNat_eq hzero)
    have hfull : (1#1 ++ @unpackMantissa .binary64 b).toNat
        = 2 ^ 52 + (@unpackMantissa .binary64 b).toNat := by
      rw [BitVec.toNat_append, ← Nat.shiftLeft_add_eq_or_of_lt (BitVec.isLt _)]
      rfl
    have hholds : Holds (signOf b.toNat) (b.toNat % 2 ^ 63) _ :=
      .finite ((@unpackExponent .binary64 b).toNat - 1) (1#1 ++ @unpackMantissa .binary64 b).toNat
        (by omega) (by omega) (by omega) (Or.inr (by omega))
    have hplace : (((@unpackExponent .binary64 b).toNat - 1 : Nat) : Int) - 1074
        = ((@unpackExponent .binary64 b).toNat : Int) - (1023 + 52) := by
      omega
    rw [hplace] at hholds
    exact hholds

variable {s : Sign} {p q : Nat} {u v : UnpackedFloat}

/-- The places decide, and between equal places the mantissas. -/
theorem Holds.isLE_compare {k m k' m' : Nat} (hm : m < 2 ^ 53) (hk : k = 0 ∨ 2 ^ 52 ≤ m)
    (hm' : m' < 2 ^ 53) (hk' : k' = 0 ∨ 2 ^ 52 ≤ m') (h : k * 2 ^ 52 + m ≤ k' * 2 ^ 52 + m') :
    ((compare ((k : Int) - 1074) ((k' : Int) - 1074)).then (compare m m')).isLE = true := by
  rcases Nat.lt_trichotomy k k' with hlt | rfl | hgt
  · rw [Int.compare_eq_lt.mpr (by omega)]
    rfl
  · rw [Int.compare_eq_eq.mpr rfl]
    show (compare m m').isLE = true
    rw [Nat.isLE_compare]
    omega
  · omega

/-- Of two positive doubles the one with the greater bits is the greater one. -/
theorem Holds.le_of_positive (hu : Holds .positive p u) (hv : Holds .positive q v) (h : p ≤ q) :
    u.le v = true := by
  cases hu with
  | zero => cases hv <;> rfl
  | finite k m hpos hp hm hk =>
      cases hv with
      | zero hq => omega
      | finite k' m' _ hq hm' hk' =>
          rw [hp, hq] at h
          exact isLE_compare hm hk hm' hk' h

/-- Of two negative doubles the one with the greater bits is the smaller one. -/
theorem Holds.le_of_negative (hu : Holds .negative p u) (hv : Holds .negative q v) (h : q ≤ p) :
    u.le v = true := by
  cases hv with
  | zero => cases hu <;> rfl
  | finite k m hpos hq hm hk =>
      cases hu with
      | zero hp => omega
      | finite k' m' _ hp hm' hk' =>
          rw [hp, hq] at h
          have hle := isLE_compare hm hk hm' hk' h
          rw [← Int.compare_swap, ← Nat.compare_swap, ← Ordering.swap_then] at hle
          exact hle

/-- A negative double is not greater than a positive one. -/
theorem Holds.le_of_signs (hu : Holds .negative p u) (hv : Holds .positive q v) :
    u.le v = true := by
  cases hu <;> cases hv <;> rfl

variable {x y : Float}

/-- A double taken apart. -/
def unpacked (x : Float) : UnpackedFloat := .unpack .binary64 x.toModel.toBits.toBitVec

/-- A finite double is held by its bits without the sign. -/
theorem holds_unpacked (h : x.isFinite = true) :
    Holds (signOf x.toBits.toNat) (x.toBits.toNat % 2 ^ 63) (unpacked x) :=
  holds_unpack x.toModel.toBits.toBitVec h

/-- Doubles are compared by what they are made of. -/
theorem le_of_unpacked (h : (unpacked x).le (unpacked y) = true) : x ≤ y := by
  show decide (x.toModel ≤ y.toModel) = true
  exact decide_eq_true h

/-- The rank of a double is given by its bits: for a negative one they are counted backwards. -/
theorem rank_eq (x : Float) :
    rank x = if x.toBits.toNat < 2 ^ 63 then (x.toBits.toNat : Int)
      else 2 ^ 63 - 1 - x.toBits.toNat :=
  rfl

/-- Finite doubles whose bits are in order are in order. -/
theorem le_of_rank_le (hx : x.isFinite = true) (hy : y.isFinite = true) (h : rank x ≤ rank y) :
    x ≤ y := by
  have hp := holds_unpacked hx
  have hq := holds_unpacked hy
  have hlt := x.toBits.toNat_lt
  have hlt' := y.toBits.toNat_lt
  rw [rank_eq, rank_eq] at h
  unfold signOf at hp hq
  apply le_of_unpacked
  by_cases hxpos : x.toBits.toNat < 2 ^ 63
  · by_cases hypos : y.toBits.toNat < 2 ^ 63
    · rw [if_pos hxpos] at hp h
      rw [if_pos hypos] at hq h
      exact hp.le_of_positive hq (by omega)
    · rw [if_pos hxpos, if_neg hypos] at h
      omega
  · by_cases hypos : y.toBits.toNat < 2 ^ 63
    · rw [if_neg hxpos] at hp
      rw [if_pos hypos] at hq
      exact hp.le_of_signs hq
    · rw [if_neg hxpos] at hp h
      rw [if_neg hypos] at hq h
      exact hp.le_of_negative hq (by omega)

/-- Doubles of the same rank are the same. -/
theorem rank_injective (h : rank x = rank y) : x = y := by
  rw [rank_eq, rank_eq] at h
  have hbits : x.toBits.toNat = y.toBits.toNat := by
    split at h <;> split at h <;> omega
  exact Float.toBits_inj.mp (UInt64.toNat_inj.mp hbits)

instance : LawfulOrder Float where
  atMost_trans _ _ _ hxy hyz := decide_eq_true (Int.le_trans (of_decide_eq_true hxy)
    (of_decide_eq_true hyz))
  atMost_total x y := by
    rcases Int.le_total (rank x) (rank y) with h | h
    · exact Bool.or_eq_true_iff.mpr (Or.inl (decide_eq_true h))
    · exact Bool.or_eq_true_iff.mpr (Or.inr (decide_eq_true h))
  atMost_antisymm _ _ hxy hyx :=
    rank_injective (Int.le_antisymm (of_decide_eq_true hxy) (of_decide_eq_true hyx))
  le_of_atMost _ _ hx hy h := le_of_rank_le hx hy (of_decide_eq_true h)

end Double

end Scalar

end SensorGateway
