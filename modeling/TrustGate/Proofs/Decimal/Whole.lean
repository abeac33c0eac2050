import TrustGate.Decimal.Binary64
import TrustGate.Proofs.Decimal.Order
import Mathlib

/-!
# Whole numbers as doubles

Rounding a whole number to a double does not carry it across zero, and only zero becomes zero:

    0.0 ≤ ofInt i ↔ 0 ≤ i      (zero_le_ofInt_iff)
    0.0 < ofInt i ↔ 0 < i      (zero_lt_ofInt_iff)

So a bound at zero may be checked before or after the conversion.  The significand of a whole
number has fifty-three digits (significand_within), what is packed of it is neither zero nor NaN
(toNat_pack), and unpacking the word keeps the side of zero (beyond_ofBits).
-/

namespace TrustGate.Decimal

open Float.Model (UnpackedFloat Format)
open Float.Model.UnpackedFloat

/-! ## Sides of zero -/

/-- Infinity, or a number other than zero, on one side of zero. -/
inductive Beyond (s : Sign) : UnpackedFloat → Prop
  | infinity : Beyond s (.infinity s)
  | finite {m : Nat} {q : Int} (positive : 0 < m) : Beyond s (.finite s m q positive)

theorem unpack_zero : (0.0 : Float).toModel.unpack = .zero .positive := rfl

theorem Beyond.compare_zero {s : Sign} {u : UnpackedFloat} (h : Beyond s u) :
    (UnpackedFloat.zero .positive).compare u =
      some (match s with | .positive => .lt | .negative => .gt) := by
  cases h <;> cases s <;> rfl

/-! ## Fields of a word -/

/-- The fields of a word that stands neither for zero nor for NaN. -/
structure Telling (e : BitVec 11) (m : BitVec 52) : Prop where
  not_zero : e = 0#11 → m ≠ 0#52
  not_nan : e = -1#11 → m = 0#52

theorem beyond_unpack {s : Sign} {e : BitVec 11} {m : BitVec 52} (h : Telling e m) :
    Beyond s (unpack .binary64 (packComponents .binary64 s e m)) := by
  simp only [unpack, unpackMantissa_packComponents, unpackExponent_packComponents,
    unpackSign_packComponents, Sign.ofBitVec_toBitVec]
  by_cases htop : e = -1#11
  · rw [if_pos htop, if_pos (h.not_nan htop)]
    exact .infinity
  · rw [if_neg htop]
    by_cases hbottom : e = 0#11
    · rw [if_pos hbottom, dif_neg (h.not_zero hbottom)]
      exact .finite _
    · rw [if_neg hbottom]
      exact .finite _

/-- A word that does not stand for NaN is kept as it is. -/
theorem pack_unpack_of_telling {s : Sign} {e : BitVec 11} {m : BitVec 52} (h : Telling e m) :
    (unpack .binary64 (packComponents .binary64 s e m)).pack .binary64 =
      packComponents .binary64 s e m := by
  rw [pack_unpack]
  refine if_neg fun hnan => ?_
  simp only [isNaNBits, unpackExponent_packComponents, unpackMantissa_packComponents,
    decide_eq_true_eq] at hnan
  exact hnan.2 (h.not_nan hnan.1)

/-! ## Words -/

def signOf (negative : Bool) : Sign := if negative then .negative else .positive

def signBit (negative : Bool) : Nat := if negative then 2 ^ 63 else 0

/-- A word by its sign and its magnitude. -/
theorem toBitVec_eq_packComponents {w : UInt64} {negative : Bool} {magnitude : Nat}
    (hm : magnitude < 2 ^ 63) (h : w.toNat = signBit negative + magnitude) :
    w.toBitVec = packComponents .binary64 (signOf negative)
      (BitVec.ofNat 11 (magnitude / 2 ^ 52)) (BitVec.ofNat 52 magnitude) := by
  have he : magnitude / 2 ^ 52 < 2 ^ 11 := by omega
  have hf : magnitude % 2 ^ 52 < 2 ^ 52 := Nat.mod_lt _ (by decide)
  apply BitVec.eq_of_toNat_eq
  rw [UInt64.toNat_toBitVec, h]
  simp only [packComponents, BitVec.toNat_append, BitVec.toNat_ofNat, Nat.mod_eq_of_lt he]
  rw [← Nat.shiftLeft_add_eq_or_of_lt he, ← Nat.shiftLeft_add_eq_or_of_lt hf, Nat.shiftLeft_eq,
    Nat.shiftLeft_eq]
  cases negative with
  | false =>
    show 0 + magnitude = (0 * 2 ^ 11 + magnitude / 2 ^ 52) * 2 ^ 52 + magnitude % 2 ^ 52
    omega
  | true =>
    show 2 ^ 63 + magnitude = (1 * 2 ^ 11 + magnitude / 2 ^ 52) * 2 ^ 52 + magnitude % 2 ^ 52
    omega

/-- A word whose magnitude is neither zero nor above that of infinity. -/
theorem beyond_ofBits {w : UInt64} {negative : Bool} {magnitude : Nat} (hpos : 0 < magnitude)
    (hle : magnitude ≤ 2047 * 2 ^ 52) (h : w.toNat = signBit negative + magnitude) :
    Beyond (signOf negative) (Float.ofBits w).toModel.unpack := by
  have htelling : Telling (BitVec.ofNat 11 (magnitude / 2 ^ 52)) (BitVec.ofNat 52 magnitude) := by
    refine ⟨fun he hf => ?_, fun he => ?_⟩
    · have he := congrArg BitVec.toNat he
      have hf := congrArg BitVec.toNat hf
      simp only [BitVec.toNat_ofNat] at he hf
      omega
    · have he := congrArg BitVec.toNat he
      apply BitVec.eq_of_toNat_eq
      simp at *
      omega
  show Beyond _ (unpack .binary64 (UnpackedFloat.pack .binary64 (unpack .binary64 w.toBitVec)))
  rw [toBitVec_eq_packComponents (by omega) h, pack_unpack_of_telling htelling]
  exact beyond_unpack htelling

/-- The magnitude that is packed of a significand of at most fifty-three digits. -/
theorem magnitude_within {m : Nat} {q : Int} (hpos : 0 < m) (hm : m < 2 ^ 53) (hq : -1074 ≤ q) :
    let magnitude := if m < Nat.pow 2 52 then m else if 971 < q then 2047 * Nat.pow 2 52
      else (q + 1075).toNat * Nat.pow 2 52 + (m - Nat.pow 2 52)
    0 < magnitude ∧ magnitude ≤ 2047 * 2 ^ 52 := by
  simp only [Nat.pow_eq]
  split
  · omega
  · split <;> omega

/-- What is packed beside the sign is neither zero nor NaN. -/
theorem toNat_pack (negative : Bool) {m : Nat} {q : Int} (hpos : 0 < m) (hm : m ≤ 2 ^ 53)
    (hq : -1074 ≤ q) : ∃ magnitude, 0 < magnitude ∧ magnitude ≤ 2047 * 2 ^ 52 ∧
      (pack negative m q).toNat = signBit negative + magnitude := by
  have hword {magnitude : Nat} (h : magnitude ≤ 2047 * 2 ^ 52) :
      (UInt64.ofNat ((if negative then Nat.pow 2 63 else 0) + magnitude)).toNat =
        signBit negative + magnitude := by
    rw [UInt64.toNat_ofNat']
    cases negative with
    | false => exact Nat.mod_eq_of_lt (show 0 + magnitude < 2 ^ 64 by omega)
    | true => exact Nat.mod_eq_of_lt (show 2 ^ 63 + magnitude < 2 ^ 64 by omega)
  unfold pack
  -- a significand that was rounded up to one more digit has carried into the exponent
  by_cases hcarry : m = Nat.pow 2 53
  · obtain ⟨h0, hle⟩ :=
      magnitude_within (m := 2 ^ 52) (q := q + 1) (by decide) (by decide) (by omega)
    refine ⟨_, h0, hle, ?_⟩
    simp only [hcarry, if_true]
    exact hword hle
  · obtain ⟨h0, hle⟩ := magnitude_within hpos (Nat.lt_of_le_of_ne hm hcarry) hq
    refine ⟨_, h0, hle, ?_⟩
    simp only [hcarry, if_false]
    exact hword hle

/-! ## Whole numbers -/

theorem roundHalfEven_quotient (num den : Nat) :
    num / den ≤ roundHalfEven num den ∧ roundHalfEven num den ≤ num / den + 1 := by
  unfold roundHalfEven
  simp only
  split
  · omega
  · split
    · omega
    · split <;> omega

/-- A number that is shifted to have so many digits after its first. -/
theorem shifted_within {n : Nat} (hn : n ≠ 0) (digits : Nat) :
    let shift := (n.log2 : Int) - digits
    let shifted := if 0 ≤ shift then n / 2 ^ shift.toNat else n * 2 ^ (-shift).toNat
    2 ^ digits ≤ shifted ∧ shifted < 2 ^ (digits + 1) := by
  have hlow := Nat.log2_self_le hn
  have hhigh := Nat.lt_log2_self (n := n)
  intro shift shifted
  by_cases hshift : 0 ≤ shift
  · have hdigits : digits + shift.toNat = n.log2 := by omega
    have hsucc : digits + 1 + shift.toNat = n.log2 + 1 := by omega
    simp only [shifted, if_pos hshift]
    rw [Nat.le_div_iff_mul_le (Nat.two_pow_pos _), Nat.div_lt_iff_lt_mul (Nat.two_pow_pos _),
      ← Nat.pow_add, ← Nat.pow_add, hdigits, hsucc]
    exact ⟨hlow, hhigh⟩
  · have hdigits : n.log2 + (-shift).toNat = digits := by omega
    have hsucc : n.log2 + 1 + (-shift).toNat = digits + 1 := by omega
    simp only [shifted, if_neg hshift]
    constructor
    · calc 2 ^ digits = 2 ^ n.log2 * 2 ^ (-shift).toNat := by rw [← Nat.pow_add, hdigits]
        _ ≤ n * 2 ^ (-shift).toNat := Nat.mul_le_mul_right _ hlow
    · calc n * 2 ^ (-shift).toNat < 2 ^ (n.log2 + 1) * 2 ^ (-shift).toNat :=
            Nat.mul_lt_mul_of_pos_right hhigh (Nat.two_pow_pos _)
        _ = 2 ^ (digits + 1) := by rw [← Nat.pow_add, hsucc]

/-- The last place of a whole number leaves it fifty-three digits. -/
theorem lastPlace_one {n : Nat} (hn : n ≠ 0) : lastPlace n 1 = (n.log2 : Int) - 52 := by
  have hone : bitLength 1 = 1 := by decide
  have hbits : bitLength n = n.log2 + 1 := if_neg hn
  have hguess : (bitLength n : Int) - (bitLength 1 : Int) - 53 = (n.log2 : Int) - 53 := by
    rw [hbits, hone]
    omega
  -- the first guess has one digit too many
  have hlarge := (shifted_within hn 53).1
  unfold lastPlace
  simp only [hguess, Nat.pow_eq, Nat.one_mul]
  by_cases hshift : 0 ≤ (n.log2 : Int) - 53
  · simp only [Nat.cast_ofNat, if_pos hshift] at hlarge
    simp only [if_pos hshift, if_neg (Nat.not_lt.mpr hlarge)]
    omega
  · simp only [Nat.cast_ofNat, if_neg hshift] at hlarge
    simp only [if_neg hshift, Nat.div_one, if_neg (Nat.not_lt.mpr hlarge)]
    omega

/-- The rounded significand of a whole number. -/
theorem significand_within {n : Nat} (hn : n ≠ 0) :
    let place := (n.log2 : Int) - 52
    let significand := if 0 ≤ place then roundHalfEven n (1 * Nat.pow 2 place.toNat)
      else roundHalfEven (n * Nat.pow 2 (-place).toNat) 1
    0 < significand ∧ significand ≤ 2 ^ 53 := by
  have hround {num den : Nat} (h : 2 ^ 52 ≤ num / den ∧ num / den < 2 ^ 53) :
      0 < roundHalfEven num den ∧ roundHalfEven num den ≤ 2 ^ 53 := by
    have := roundHalfEven_quotient num den
    omega
  have hshifted := shifted_within hn 52
  simp only [Nat.pow_eq, Nat.one_mul]
  split
  · next hplace =>
    simp only [Nat.cast_ofNat, if_pos hplace] at hshifted
    exact hround hshifted
  · next hplace =>
    simp only [Nat.cast_ofNat, if_neg hplace] at hshifted
    exact hround (by rwa [Nat.div_one])

theorem beyond_ofInt {i : Int} (hi : i ≠ 0) :
    Beyond (signOf (decide (i < 0))) (ofInt i).toModel.unpack := by
  have hn : i.natAbs ≠ 0 := by omega
  obtain ⟨hpos, hle⟩ := significand_within hn
  have hgiven : ¬(i.natAbs = 0 ∨ 1 = 0) := by omega
  unfold ofInt nearest
  simp only [if_neg hgiven, lastPlace_one hn]
  obtain ⟨magnitude, h0, hmagnitude, hword⟩ :=
    toNat_pack (decide (i < 0)) hpos hle (q := (i.natAbs.log2 : Int) - 52) (by omega)
  exact beyond_ofBits h0 hmagnitude hword

/-- Where the double of a whole number lies. -/
theorem compare_zero_ofInt (i : Int) :
    (0.0 : Float).toModel.unpack.compare (ofInt i).toModel.unpack = some (compare 0 i) := by
  rw [unpack_zero]
  rcases Int.lt_trichotomy i 0 with hlt | rfl | hgt
  · have hbeyond := beyond_ofInt (i := i) (by omega)
    rw [decide_eq_true hlt] at hbeyond
    rw [hbeyond.compare_zero, Int.compare_eq_gt.mpr hlt]
    rfl
  · rfl
  · have hbeyond := beyond_ofInt (i := i) (by omega)
    rw [decide_eq_false (by omega)] at hbeyond
    rw [hbeyond.compare_zero, Int.compare_eq_lt.mpr hgt]
    rfl

theorem zero_lt_ofInt_iff (i : Int) : 0.0 < ofInt i ↔ 0 < i := by
  rw [lt_iff, compare_zero_ofInt, Option.some.injEq, Int.compare_eq_lt]

theorem zero_le_ofInt_iff (i : Int) : 0.0 ≤ ofInt i ↔ 0 ≤ i := by
  rw [le_iff, compare_zero_ofInt, Option.any_some, Int.isLE_compare]

end TrustGate.Decimal
