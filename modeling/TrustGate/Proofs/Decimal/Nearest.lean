import TrustGate.Proofs.Decimal.Whole
import TrustGate.Decimal.Shortest

/-!
# The double nearest a fraction

The interval of a double is made of the numbers that round to it, ends included if its
significand is even:

    (around m q).contains r ↔ Owns m q r                                   (contains_around_iff)
    Owns m q (num / den) → nearest s num den = ofBits (pack s m q)         (nearest_of_owns)
    parts x = finite s m q → ofBits (pack s m q) = x                       (ofBits_pack_of_parts)

Fractions are compared as rational numbers here (Ratio.value).  The last place found for a
fraction is the only one that leaves its quotient fifty-three digits (lastPlace_spec,
lastPlace_eq); below a power of two it is one less than that of the double, and the significand
then carries (pack_carry).
-/

namespace TrustGate.Decimal

open Float.Model (UnpackedFloat Format)
open Float.Model.UnpackedFloat (unpackExponent unpackExponent_def)

/-! ## Fractions as rational numbers -/

def Ratio.value (r : Ratio) : ℚ := r.num / r.den

theorem Ratio.den_dyadic_pos (m : Nat) (q : Int) : 0 < (Ratio.dyadic m q).den := by
  unfold Ratio.dyadic
  split
  · exact Nat.one_pos
  · exact Nat.two_pow_pos _

theorem Ratio.den_decimal_pos (m : Nat) (e : Int) : 0 < (Ratio.decimal m e).den := by
  unfold Ratio.decimal
  split
  · exact Nat.one_pos
  · exact Nat.pow_pos (by decide)

theorem Ratio.value_dyadic (m : Nat) (q : Int) : (Ratio.dyadic m q).value = m * 2 ^ q := by
  unfold Ratio.dyadic Ratio.value
  split
  · next h =>
    lift q to Nat using h
    simp
  · next h =>
    obtain ⟨k, rfl⟩ : ∃ k : Nat, q = -k := ⟨(-q).toNat, by omega⟩
    simp [div_eq_mul_inv]

theorem Ratio.value_decimal (m : Nat) (e : Int) : (Ratio.decimal m e).value = m * 10 ^ e := by
  unfold Ratio.decimal Ratio.value
  split
  · next h =>
    lift e to Nat using h
    simp
  · next h =>
    obtain ⟨k, rfl⟩ : ∃ k : Nat, e = -k := ⟨(-e).toNat, by omega⟩
    simp [div_eq_mul_inv]

theorem Ratio.le_iff {a b : Ratio} (ha : 0 < a.den) (hb : 0 < b.den) :
    a.le b = true ↔ a.value ≤ b.value := by
  have ha : (0 : ℚ) < a.den := by exact_mod_cast ha
  have hb : (0 : ℚ) < b.den := by exact_mod_cast hb
  rw [Ratio.le, decide_eq_true_iff, Ratio.value, Ratio.value, div_le_div_iff₀ ha hb]
  exact_mod_cast Iff.rfl

theorem Ratio.lt_iff {a b : Ratio} (ha : 0 < a.den) (hb : 0 < b.den) :
    a.lt b = true ↔ a.value < b.value := by
  have ha : (0 : ℚ) < a.den := by exact_mod_cast ha
  have hb : (0 : ℚ) < b.den := by exact_mod_cast hb
  rw [Ratio.lt, decide_eq_true_iff, Ratio.value, Ratio.value, div_lt_div_iff₀ ha hb]
  exact_mod_cast Iff.rfl

/-! ## The interval of a double -/

/-- How many of its last places the interval of a double reaches below it. -/
def reach (m : Nat) (q : Int) : ℚ := if m = 2 ^ 52 ∧ -1074 < q then 1 / 4 else 1 / 2

theorem reach_le (m : Nat) (q : Int) : reach m q ≤ 1 / 2 := by
  unfold reach
  split <;> norm_num

/-- The numbers that round to `m · 2 ^ q`. -/
structure Owns (m : Nat) (q : Int) (v : ℚ) : Prop where
  low : (m - reach m q) * 2 ^ q ≤ v
  high : v ≤ (m + 1 / 2) * 2 ^ q
  odd : m % 2 = 1 → (m - reach m q) * 2 ^ q < v ∧ v < (m + 1 / 2) * 2 ^ q

theorem value_low_around {m : Nat} (hm : 0 < m) (q : Int) :
    (Interval.around m q).low.value = (m - reach m q) * 2 ^ q := by
  have hvalue (below : Nat) (h : below ≤ 4 * m) :
      (Ratio.dyadic (4 * m - below) (q - 2)).value = (m - below / 4) * 2 ^ q := by
    rw [Ratio.value_dyadic, Nat.cast_sub h, zpow_sub₀ two_ne_zero]
    push_cast
    ring
  unfold Interval.around reach
  simp only [Nat.pow_eq]
  split
  · rw [hvalue 1 (by omega)]
    norm_num
  · rw [hvalue 2 (by omega)]
    norm_num

theorem value_high_around (m : Nat) (q : Int) :
    (Interval.around m q).high.value = (m + 1 / 2) * 2 ^ q := by
  have : (Interval.around m q).high = Ratio.dyadic (4 * m + 2) (q - 2) := rfl
  rw [this, Ratio.value_dyadic, zpow_sub₀ two_ne_zero]
  push_cast
  ring

theorem contains_around_iff {m : Nat} (hm : 0 < m) {q : Int} {r : Ratio} (hr : 0 < r.den) :
    (Interval.around m q).contains r = true ↔ Owns m q r.value := by
  have hlow : 0 < (Interval.around m q).low.den := Ratio.den_dyadic_pos _ _
  have hhigh : 0 < (Interval.around m q).high.den := Ratio.den_dyadic_pos _ _
  have hclosed : (Interval.around m q).closed = (m % 2 == 0) := rfl
  rw [Interval.contains, hclosed]
  by_cases heven : m % 2 = 0
  · rw [if_pos (beq_iff_eq.mpr heven), Bool.and_eq_true, Ratio.le_iff hlow hr,
      Ratio.le_iff hr hhigh, value_low_around hm, value_high_around]
    exact ⟨fun h => ⟨h.1, h.2, fun hodd => by omega⟩, fun h => ⟨h.low, h.high⟩⟩
  · rw [if_neg (by simpa using heven), Bool.and_eq_true, Ratio.lt_iff hlow hr,
      Ratio.lt_iff hr hhigh, value_low_around hm, value_high_around]
    exact ⟨fun h => ⟨h.1.le, h.2.le, fun _ => h⟩, fun h => h.odd (by omega)⟩

theorem Owns.pos {m : Nat} (hm : 0 < m) {q : Int} {v : ℚ} (h : Owns m q v) : 0 < v := by
  have hm : (1 : ℚ) ≤ m := by exact_mod_cast hm
  have hreach := reach_le m q
  exact lt_of_lt_of_le (mul_pos (by linarith) (by positivity)) h.low

/-! ## Doubles and their parts -/

/-- The significands and exponents of doubles. -/
structure Canonical (m : Nat) (q : Int) : Prop where
  lt : m < 2 ^ 53
  least : -1074 ≤ q
  greatest : q ≤ 971
  full : q = -1074 ∨ 2 ^ 52 ≤ m

theorem canonical_of_parts {x : Float} {s : Bool} {m : Nat} {q : Int}
    (h : parts x = .finite s m q) : Canonical m q := by
  unfold parts Parts.ofBits at h
  simp only [Nat.pow_eq] at h
  split at h
  · split at h <;> cases h
  · split at h
    · cases h
      exact ⟨by omega, by omega, by omega, .inl rfl⟩
    · cases h
      exact ⟨by omega, by omega, by omega, .inr (by omega)⟩

theorem isFinite_unpack (b : BitVec Format.binary64.numBits) :
    (UnpackedFloat.unpack .binary64 b).isFinite = decide (unpackExponent b ≠ -1#11) := by
  unfold UnpackedFloat.unpack
  by_cases htop : unpackExponent b = -1#11
  · rw [if_pos htop, decide_eq_false (by simpa using htop)]
    split <;> rfl
  · rw [if_neg htop, decide_eq_true htop]
    split
    · split <;> rfl
    · rfl

/-- A double is finite if and only if it stands for a number. -/
theorem isFinite_iff (x : Float) : x.isFinite = true ↔ ∃ s m q, parts x = .finite s m q := by
  have hexponent : @unpackExponent .binary64 x.toBits.toBitVec = -1#11 ↔
      x.toBits.toNat / 2 ^ 52 % 2 ^ 11 = 2047 := by
    rw [unpackExponent_def, ← BitVec.toNat_inj, BitVec.extractLsb'_toNat, Nat.shiftRight_eq_div_pow]
    exact Iff.rfl
  show (UnpackedFloat.unpack .binary64 x.toBits.toBitVec).isFinite = true ↔ _
  rw [isFinite_unpack, decide_eq_true_iff, ne_eq, hexponent]
  unfold parts Parts.ofBits
  simp only [Nat.pow_eq]
  generalize x.toBits.toNat / 2 ^ 52 % 2 ^ 11 = field
  by_cases htop : field = 2047
  · rw [if_pos htop]
    split <;> simp [htop]
  · rw [if_neg htop]
    split <;> simp [htop]

theorem ofBits_toBits (x : Float) : Float.ofBits x.toBits = x := by
  obtain ⟨⟨bits, hvalid⟩⟩ := x
  have hbits := UnpackedFloat.pack_unpack_of_valid hvalid
  show Float.ofModel (.pack (UnpackedFloat.unpack .binary64 bits.toBitVec)) = _
  simp only [Float.Model.pack, hbits]

theorem pack_of_parts {x : Float} {s : Bool} {m : Nat} {q : Int} (h : parts x = .finite s m q) :
    pack s m q = x.toBits := by
  have hword := x.toBits.toNat_lt
  apply UInt64.toNat_inj.mp
  unfold parts Parts.ofBits at h
  unfold pack
  generalize x.toBits.toNat = word at h hword ⊢
  simp only [Nat.pow_eq] at h ⊢
  rw [UInt64.toNat_ofNat']
  by_cases htop : word / 2 ^ 52 % 2 ^ 11 = 2047
  · rw [if_pos htop] at h
    split at h <;> cases h
  rw [if_neg htop] at h
  have hsign :
      (if decide (2 ^ 63 ≤ word) = true then 2 ^ 63 else 0) = word / 2 ^ 63 * 2 ^ 63 := by
    by_cases hs : 2 ^ 63 ≤ word
    · rw [if_pos (decide_eq_true hs)]
      omega
    · rw [if_neg (by simpa using hs)]
      omega
  by_cases hbottom : word / 2 ^ 52 % 2 ^ 11 = 0
  · rw [if_pos hbottom] at h
    obtain ⟨rfl, rfl, rfl⟩ := Parts.finite.inj h
    have hcarry : word % 2 ^ 52 ≠ 2 ^ 53 := by omega
    have hsmall : word % 2 ^ 52 < 2 ^ 52 := by omega
    simp only [if_neg hcarry, if_pos hsmall]
    omega
  · rw [if_neg hbottom] at h
    obtain ⟨rfl, rfl, rfl⟩ := Parts.finite.inj h
    have hcarry : 2 ^ 52 + word % 2 ^ 52 ≠ 2 ^ 53 := by omega
    have hlarge : ¬2 ^ 52 + word % 2 ^ 52 < 2 ^ 52 := by omega
    have hrange : ¬(971 : Int) < ((word / 2 ^ 52 % 2 ^ 11 : Nat) : Int) - 1075 := by omega
    simp only [if_neg hcarry, if_neg hlarge, if_neg hrange]
    omega

/-- A double is told by its parts. -/
theorem ofBits_pack_of_parts {x : Float} {s : Bool} {m : Nat} {q : Int}
    (h : parts x = .finite s m q) : Float.ofBits (pack s m q) = x := by
  rw [pack_of_parts h, ofBits_toBits]

/-- A significand that was rounded up to one more digit carries into the exponent. -/
theorem pack_carry (s : Bool) (q : Int) : pack s (2 ^ 53) q = pack s (2 ^ 52) (q + 1) := rfl

/-! ## The last place of a fraction -/

theorem bitLength_bounds {n : Nat} (hn : 0 < n) :
    (2 : ℚ) ^ ((bitLength n : Int) - 1) ≤ n ∧ (n : ℚ) < 2 ^ (bitLength n : Int) := by
  have hbits : bitLength n = n.log2 + 1 := if_neg (by omega)
  have hlow := Nat.log2_self_le (n := n) (by omega)
  have hhigh := Nat.lt_log2_self (n := n)
  rw [hbits, Nat.cast_add, Nat.cast_one, add_sub_cancel_right]
  exact ⟨by exact_mod_cast hlow, by exact_mod_cast hhigh⟩

/-- How large a fraction is, from the bits of its parts. -/
theorem quotient_bounds {num den : Nat} (hnum : 0 < num) (hden : 0 < den) :
    (2 : ℚ) ^ ((bitLength num : Int) - bitLength den - 1) ≤ num / den ∧
      (num : ℚ) / den < 2 ^ ((bitLength num : Int) - bitLength den + 1) := by
  obtain ⟨hnlow, hnhigh⟩ := bitLength_bounds hnum
  obtain ⟨hdlow, hdhigh⟩ := bitLength_bounds hden
  have hdpos : (0 : ℚ) < den := by exact_mod_cast hden
  constructor
  · rw [le_div_iff₀ hdpos]
    calc (2 : ℚ) ^ ((bitLength num : Int) - bitLength den - 1) * den
        ≤ 2 ^ ((bitLength num : Int) - bitLength den - 1) * 2 ^ (bitLength den : Int) := by gcongr
      _ = 2 ^ ((bitLength num : Int) - 1) := by
        rw [← zpow_add₀ two_ne_zero]
        congr 1
        ring
      _ ≤ num := hnlow
  · rw [div_lt_iff₀ hdpos]
    calc (num : ℚ) < 2 ^ (bitLength num : Int) := hnhigh
      _ = 2 ^ ((bitLength num : Int) - bitLength den + 1) * 2 ^ ((bitLength den : Int) - 1) := by
        rw [← zpow_add₀ two_ne_zero]
        congr 1
        ring
      _ ≤ 2 ^ ((bitLength num : Int) - bitLength den + 1) * den := by gcongr

/-- A fraction in units of `2 ^ p`. -/
def inPlaces (num den : Nat) (p : Int) : Ratio :=
  if 0 ≤ p then ⟨num, den * 2 ^ p.toNat⟩ else ⟨num * 2 ^ (-p).toNat, den⟩

theorem den_inPlaces_pos (num : Nat) {den : Nat} (hden : 0 < den) (p : Int) :
    0 < (inPlaces num den p).den := by
  unfold inPlaces
  split
  · exact Nat.mul_pos hden (Nat.two_pow_pos _)
  · exact hden

theorem value_inPlaces (num den : Nat) (p : Int) :
    (inPlaces num den p).value = (num : ℚ) / den / 2 ^ p := by
  unfold inPlaces Ratio.value
  split
  · next h =>
    lift p to Nat using h
    simp [div_div]
  · next h =>
    obtain ⟨k, rfl⟩ : ∃ k : Nat, p = -k := ⟨(-p).toNat, by omega⟩
    simp
    ring

/-- The last place that leaves a number fifty-three digits, or the least one. -/
structure IsLastPlace (p : Int) (v : ℚ) : Prop where
  lt : v < 2 ^ (p + 53)
  least : -1074 ≤ p
  full : p = -1074 ∨ 2 ^ (p + 52) ≤ v

theorem lastPlace_spec {num den : Nat} (hnum : 0 < num) (hden : 0 < den) :
    IsLastPlace (lastPlace num den) ((num : ℚ) / den) := by
  obtain ⟨hlow, hhigh⟩ := quotient_bounds hnum hden
  unfold lastPlace
  extract_lets guess scaled place
  have hscaled : scaled = inPlaces num den guess := rfl
  have hvalue : scaled.value = (num : ℚ) / den / 2 ^ guess := by rw [hscaled, value_inPlaces]
  have hsden : (0 : ℚ) < scaled.den := by
    rw [hscaled]
    exact_mod_cast den_inPlaces_pos num hden guess
  -- at the first guess the quotient has fifty-three or fifty-four digits
  have hguess : guess = (bitLength num : Int) - bitLength den - 53 := rfl
  have hlow : (2 : ℚ) ^ (guess + 52) ≤ num / den := by
    rwa [show guess + 52 = (bitLength num : Int) - bitLength den - 1 by omega]
  have hhigh : (num : ℚ) / den < 2 ^ (guess + 54) := by
    rwa [show guess + 54 = (bitLength num : Int) - bitLength den + 1 by omega]
  have hplace : (num : ℚ) / den < 2 ^ (place + 53) ∧ 2 ^ (place + 52) ≤ (num : ℚ) / den := by
    have hfew : scaled.num / scaled.den < Nat.pow 2 53 ↔ (num : ℚ) / den < 2 ^ (guess + 53) := by
      rw [Nat.div_lt_iff_lt_mul (by exact_mod_cast hsden), add_comm guess, zpow_add₀ two_ne_zero,
        ← div_lt_iff₀ (by positivity), ← hvalue, Ratio.value, div_lt_iff₀ hsden]
      exact_mod_cast Iff.rfl
    by_cases h : scaled.num / scaled.den < Nat.pow 2 53
    · have : place = guess := if_pos h
      rw [this]
      exact ⟨hfew.mp h, hlow⟩
    · have : place = guess + 1 := if_neg h
      rw [this, show guess + 1 + 53 = guess + 54 by ring, show guess + 1 + 52 = guess + 53 by ring]
      exact ⟨hhigh, not_lt.mp (mt hfew.mpr h)⟩
  refine ⟨hplace.1.trans_le ?_, le_max_right _ _, ?_⟩
  · exact zpow_le_zpow_right₀ one_le_two (by omega)
  · rcases le_total place (-1074) with h | h
    · exact .inl (max_eq_right h)
    · rw [max_eq_left h]
      exact .inr hplace.2

theorem IsLastPlace.le {p p' : Int} {v : ℚ} (h : IsLastPlace p v) (h' : IsLastPlace p' v) :
    p ≤ p' := by
  rcases h.full with rfl | hfull
  · exact h'.least
  · have hlt : (2 : ℚ) ^ (p + 52) < 2 ^ (p' + 53) := hfull.trans_lt h'.lt
    have := (zpow_lt_zpow_iff_right₀ one_lt_two).mp hlt
    omega

theorem lastPlace_eq {num den : Nat} (hnum : 0 < num) (hden : 0 < den) {p : Int}
    (h : IsLastPlace p ((num : ℚ) / den)) : lastPlace num den = p :=
  le_antisymm ((lastPlace_spec hnum hden).le h) (h.le (lastPlace_spec hnum hden))

/-! ## Rounding to the nearest -/

/-- Half way between two whole numbers the even one is taken. -/
theorem even_roundHalfEven {num den k : Nat} (hden : 0 < den) (h : 2 * num = (2 * k + 1) * den) :
    roundHalfEven num den % 2 = 0 := by
  have hquotient : num / den = k := by
    refine Nat.div_eq_of_lt_le ?_ ?_ <;> linarith
  have hrest : 2 * (num % den) = den := by
    have := Nat.div_add_mod num den
    rw [hquotient] at this
    nlinarith
  unfold roundHalfEven
  simp only [hquotient, hrest, Nat.lt_irrefl, if_false]
  split <;> omega

/-- A whole number at most half a unit away, and less if it is odd, is the rounded one. -/
theorem roundHalfEven_eq {num den n : Nat} (hden : 0 < den)
    (hlow : 2 * n * den ≤ 2 * num + den) (hhigh : 2 * num ≤ (2 * n + 1) * den)
    (hodd : n % 2 = 1 → 2 * n * den < 2 * num + den ∧ 2 * num < (2 * n + 1) * den) :
    roundHalfEven num den = n := by
  obtain ⟨hup, hdown⟩ := roundHalfEven_within num hden
  generalize hr : roundHalfEven num den = r at hup hdown
  have heven {k : Nat} (htie : 2 * num = (2 * k + 1) * den) : r % 2 = 0 :=
    hr ▸ even_roundHalfEven hden htie
  rcases Nat.lt_trichotomy r n with hlt | heq | hgt
  · -- both are half a unit away, so the greater one is odd
    have hstep : (r + 1) * den ≤ n * den := Nat.mul_le_mul_right den hlt
    have htie : 2 * num = (2 * r + 1) * den := by linarith
    have hnext : n = r + 1 := by
      refine le_antisymm (Nat.le_of_mul_le_mul_right ?_ hden) hlt
      linarith
    have := heven htie
    have := (hodd (by omega)).1
    rw [hnext] at this
    linarith
  · exact heq
  · have hstep : (n + 1) * den ≤ r * den := Nat.mul_le_mul_right den hgt
    have htie : 2 * num = (2 * n + 1) * den := by linarith
    have hnext : r = n + 1 := by
      refine le_antisymm (Nat.le_of_mul_le_mul_right ?_ hden) hgt
      linarith
    have := heven htie
    have := (hodd (by omega)).2
    linarith

theorem roundHalfEven_eq_of_value {r : Ratio} (hden : 0 < r.den) {n : Nat}
    (hlow : (n : ℚ) - 1 / 2 ≤ r.value) (hhigh : r.value ≤ n + 1 / 2)
    (hodd : n % 2 = 1 → (n : ℚ) - 1 / 2 < r.value ∧ r.value < n + 1 / 2) :
    roundHalfEven r.num r.den = n := by
  have hden' : (0 : ℚ) < r.den := by exact_mod_cast hden
  rw [Ratio.value] at hlow hhigh hodd
  rw [le_div_iff₀ hden'] at hlow
  rw [div_le_iff₀ hden'] at hhigh
  rw [lt_div_iff₀ hden', div_lt_iff₀ hden'] at hodd
  refine roundHalfEven_eq hden ?_ ?_ fun h => ⟨?_, ?_⟩
  · have : (2 : ℚ) * n * r.den ≤ 2 * r.num + r.den := by linarith
    exact_mod_cast this
  · have : (2 : ℚ) * r.num ≤ (2 * n + 1) * r.den := by linarith
    exact_mod_cast this
  · have : (2 : ℚ) * n * r.den < 2 * r.num + r.den := by linarith [(hodd h).1]
    exact_mod_cast this
  · have : (2 : ℚ) * r.num < (2 * n + 1) * r.den := by linarith [(hodd h).2]
    exact_mod_cast this

theorem nearest_eq (s : Bool) {num den : Nat} (hnum : 0 < num) (hden : 0 < den) {p : Int}
    (hp : IsLastPlace p ((num : ℚ) / den)) {n : Nat}
    (hn : roundHalfEven (inPlaces num den p).num (inPlaces num den p).den = n) :
    nearest s num den = Float.ofBits (pack s n p) := by
  have hgiven : ¬(num = 0 ∨ den = 0) := by omega
  unfold nearest
  simp only [if_neg hgiven, lastPlace_eq hnum hden hp]
  rw [← hn]
  unfold inPlaces
  split <;> rfl

/-- A fraction whose last place is that of the double. -/
theorem nearest_of_owns_of_full (s : Bool) {m : Nat} {q : Int} (hc : Canonical m q) {num den : Nat}
    (hnum : 0 < num) (hden : 0 < den) (h : Owns m q ((num : ℚ) / den))
    (hfull : q = -1074 ∨ 2 ^ (q + 52) ≤ (num : ℚ) / den) :
    nearest s num den = Float.ofBits (pack s m q) := by
  have hunit : (0 : ℚ) < 2 ^ q := by positivity
  have hlast : IsLastPlace q ((num : ℚ) / den) := by
    refine ⟨h.high.trans_lt ?_, hc.least, hfull⟩
    have hlt : (m : ℚ) + 1 ≤ 2 ^ 53 := by exact_mod_cast hc.lt
    rw [add_comm q, zpow_add₀ two_ne_zero]
    exact mul_lt_mul_of_pos_right (lt_of_lt_of_le (by linarith) hlt) hunit
  refine nearest_eq s hnum hden hlast
    (roundHalfEven_eq_of_value (den_inPlaces_pos num hden q) ?_ ?_ fun hodd => ?_)
  · rw [value_inPlaces, le_div_iff₀ hunit]
    have := reach_le m q
    exact le_trans (mul_le_mul_of_nonneg_right (by linarith) hunit.le) h.low
  · rw [value_inPlaces, div_le_iff₀ hunit]
    exact h.high
  · rw [value_inPlaces, lt_div_iff₀ hunit, div_lt_iff₀ hunit]
    have := reach_le m q
    exact ⟨lt_of_le_of_lt (mul_le_mul_of_nonneg_right (by linarith) hunit.le) (h.odd hodd).1,
      (h.odd hodd).2⟩

/-- Only the least significand has numbers of its interval below the power of two. -/
theorem Owns.le_of_below {m : Nat} {q : Int} {v : ℚ} (h : Owns m q v) (hbelow : v < 2 ^ (q + 52)) :
    m ≤ 2 ^ 52 := by
  have hunit : (0 : ℚ) < 2 ^ q := by positivity
  have hpower : (2 : ℚ) ^ (q + 52) = 2 ^ 52 * 2 ^ q := by
    rw [add_comm, zpow_add₀ two_ne_zero]
    norm_num
  have hlt : (m - reach m q) * 2 ^ q < 2 ^ 52 * 2 ^ q := hpower ▸ h.low.trans_lt hbelow
  have hlt := lt_of_mul_lt_mul_right hlt hunit.le
  have hreach := reach_le m q
  have : (m : ℚ) < 2 ^ 52 + 1 := by linarith
  have : m < 2 ^ 52 + 1 := by exact_mod_cast this
  omega

/-- A fraction below the power of two that it rounds to. -/
theorem nearest_of_owns_of_below (s : Bool) {m : Nat} {q : Int} (hc : Canonical m q)
    {num den : Nat} (hnum : 0 < num) (hden : 0 < den) (h : Owns m q ((num : ℚ) / den))
    (hq : q ≠ -1074) (hbelow : (num : ℚ) / den < 2 ^ (q + 52)) :
    nearest s num den = Float.ofBits (pack s m q) := by
  have hunit : (0 : ℚ) < 2 ^ q := by positivity
  have hhalf : (2 : ℚ) ^ q = 2 * 2 ^ (q - 1) := by
    rw [zpow_sub_one₀ two_ne_zero]
    ring
  have hpower : (2 : ℚ) ^ (q + 52) = 2 ^ 52 * 2 ^ q := by
    rw [add_comm, zpow_add₀ two_ne_zero]
    norm_num
  have hm : m = 2 ^ 52 := le_antisymm (h.le_of_below hbelow) (hc.full.resolve_left hq)
  have hreach : reach m q = 1 / 4 := if_pos ⟨hm, lt_of_le_of_ne hc.least (Ne.symm hq)⟩
  have hlow := h.low
  rw [hreach, hm, hhalf] at hlow
  rw [hpower, hhalf] at hbelow
  have hunit' : (0 : ℚ) < 2 ^ (q - 1) := by positivity
  have hlast : IsLastPlace (q - 1) ((num : ℚ) / den) := by
    have := hc.least
    refine ⟨?_, by omega, .inr ?_⟩
    · rw [add_comm, zpow_add₀ two_ne_zero]
      norm_num at *
      linarith
    · rw [add_comm, zpow_add₀ two_ne_zero]
      norm_num at *
      linarith
  -- rounded up it has one digit too many
  have hround : roundHalfEven (inPlaces num den (q - 1)).num (inPlaces num den (q - 1)).den =
      2 ^ 53 := by
    refine roundHalfEven_eq_of_value (den_inPlaces_pos num hden _) ?_ ?_ fun hodd => ?_
    · rw [value_inPlaces, le_div_iff₀ hunit']
      push_cast at *
      linarith
    · rw [value_inPlaces, div_le_iff₀ hunit']
      push_cast at *
      linarith
    · exact absurd hodd (by decide)
  rw [nearest_eq s hnum hden hlast hround, pack_carry, hm, sub_add_cancel]

theorem nearest_of_owns (s : Bool) {m : Nat} {q : Int} (hc : Canonical m q) (hm : 0 < m)
    {num den : Nat} (hden : 0 < den) (h : Owns m q ((num : ℚ) / den)) :
    nearest s num den = Float.ofBits (pack s m q) := by
  have hnum : 0 < num := by
    rcases Nat.eq_zero_or_pos num with rfl | hpos
    · exact absurd (h.pos hm) (by simp)
    · exact hpos
  by_cases hq : q = -1074
  · exact nearest_of_owns_of_full s hc hnum hden h (.inl hq)
  · rcases le_or_gt (2 ^ (q + 52)) ((num : ℚ) / den) with hle | hlt
    · exact nearest_of_owns_of_full s hc hnum hden h (.inr hle)
    · exact nearest_of_owns_of_below s hc hnum hden h hq hlt

end TrustGate.Decimal
