import TrustGate.Proofs.Decimal.Nearest
import TrustGate.Decimal.Reader

/-!
# Shortest digits read back

The search for the shortest digits ends on a grid of at most seventeen digits, and what it finds
lies in the interval of the double:

    (d, k) = shortest m q → d · 10^k rounds to m · 2^q      (owns_shortest)

On the grid of seventeen digits the neighbours of the value are less than nine tenths of its last
place apart, so one of them is close enough (owns_grid).
-/

namespace TrustGate.Decimal

/-! ## Decimal digits -/

theorem length_digits_pos (n : Nat) : 0 < (digits n).length := Nat.length_toDigits_pos

theorem lt_pow_length_digits (n : Nat) : n < 10 ^ (digits n).length :=
  (Nat.length_toDigits_le_iff (by decide) (length_digits_pos n)).mp le_rfl

theorem pow_length_digits_le {n : Nat} (hn : 0 < n) : 10 ^ ((digits n).length - 1) ≤ n := by
  by_contra h
  rcases Nat.eq_zero_or_pos ((digits n).length - 1) with hzero | hpos
  · rw [hzero] at h
    omega
  · have : (digits n).length ≤ (digits n).length - 1 :=
      (Nat.length_toDigits_le_iff (by decide) hpos).mpr (not_le.mp h)
    omega

theorem isDigit_of_mem_digits {n : Nat} {c : Char} (h : c ∈ digits n) : c.isDigit = true :=
  Nat.isDigit_of_mem_toDigits (by decide) (by decide) h

/-- Only zero starts with a zero. -/
theorem head?_digits_ne_zero {n : Nat} (hn : 0 < n) : (digits n).head? ≠ some '0' := by
  induction n using Nat.strongRecOn with
  | _ n ih =>
    unfold digits
    rw [Nat.toDigits_eq_if (by decide)]
    split
    · next h =>
      rw [List.head?_cons, ne_eq, Option.some.injEq]
      interval_cases n <;> decide
    · rw [List.head?_append_of_ne_nil _ Nat.toDigits_ne_nil]
      exact ih (n / 10) (by omega) (by omega)

theorem decimalExponent_le {num den : Nat} (hnum : 0 < num) (hden : 0 < den) :
    (10 : ℚ) ^ decimalExponent num den ≤ num / den := by
  have hden' : (0 : ℚ) < den := by exact_mod_cast hden
  unfold decimalExponent
  extract_lets guess
  have hle : (Ratio.decimal 1 guess).le ⟨num, den⟩ = true ↔ (10 : ℚ) ^ guess ≤ num / den := by
    rw [Ratio.le_iff (Ratio.den_decimal_pos _ _) hden, Ratio.value_decimal, Nat.cast_one, one_mul]
    rfl
  split
  · next h => exact hle.mp h
  · rw [le_div_iff₀ hden']
    have hlow : (10 : ℚ) ^ ((digits num).length - 1) ≤ num := by
      exact_mod_cast pow_length_digits_le hnum
    have hhigh : (den : ℚ) ≤ 10 ^ (digits den).length := by
      exact_mod_cast (lt_pow_length_digits den).le
    have hpos := length_digits_pos num
    calc (10 : ℚ) ^ (guess - 1) * den ≤ 10 ^ (guess - 1) * 10 ^ (digits den).length := by gcongr
      _ = 10 ^ ((digits num).length - 1) := by
        rw [← zpow_natCast, ← zpow_natCast, ← zpow_add₀ (by norm_num)]
        congr 1
        omega
      _ ≤ num := hlow

/-! ## The search -/

/-- The number below a value on the grid of `10 ^ k`. -/
def gridBelow (value : Ratio) (k : Int) : Nat :=
  (value.num * (Ratio.decimal 1 k).den) / (value.den * (Ratio.decimal 1 k).num)

theorem gridBelow_spec {value : Ratio} (hden : 0 < value.den) (k : Int) :
    gridBelow value k * 10 ^ k ≤ value.value ∧
      value.value < gridBelow value k * 10 ^ k + 10 ^ k := by
  have hscale := Ratio.value_decimal 1 k
  have hsden := Ratio.den_decimal_pos 1 k
  unfold gridBelow
  generalize Ratio.decimal 1 k = scale at hscale hsden ⊢
  rw [Nat.cast_one, one_mul] at hscale
  have hsden' : (0 : ℚ) < scale.den := by exact_mod_cast hsden
  have hden' : (0 : ℚ) < value.den := by exact_mod_cast hden
  have hstep : (0 : ℚ) < 10 ^ k := by positivity
  have hnum : (scale.num : ℚ) = 10 ^ k * scale.den := by
    rw [← hscale, Ratio.value, div_mul_cancel₀ _ hsden'.ne']
  have hsnum : (0 : ℚ) < scale.num := hnum ▸ mul_pos hstep hsden'
  have hunit : 0 < value.den * scale.num := Nat.mul_pos hden (by exact_mod_cast hsnum)
  have hmul := Nat.div_add_mod (value.num * scale.den) (value.den * scale.num)
  have hmod := Nat.mod_lt (value.num * scale.den) hunit
  generalize value.num * scale.den / (value.den * scale.num) = d at hmul ⊢
  have hlow : value.den * scale.num * d ≤ value.num * scale.den := by omega
  have hhigh : value.num * scale.den < value.den * scale.num * d + value.den * scale.num := by omega
  have hlow : (value.den * scale.num * d : ℚ) ≤ value.num * scale.den := by exact_mod_cast hlow
  have hhigh : (value.num * scale.den : ℚ) < value.den * scale.num * d + value.den * scale.num := by
    exact_mod_cast hhigh
  rw [hnum] at hlow hhigh
  rw [Ratio.value, le_div_iff₀ hden', div_lt_iff₀ hden']
  constructor
  · exact le_of_mul_le_mul_right (by linarith) hsden'
  · exact lt_of_mul_lt_mul_right (by linarith) hsden'.le

/-- The search finds a number of the interval if there is one on a grid that it tries. -/
theorem contains_shortestFrom (value : Ratio) (inside : Interval) (top : Int) {left tried j : Nat}
    (hleast : tried ≤ j) (hmost : j < tried + left)
    (hj : inside.contains (Ratio.decimal (gridBelow value (top - j)) (top - j)) = true ∨
      inside.contains (Ratio.decimal (gridBelow value (top - j) + 1) (top - j)) = true) :
    inside.contains (Ratio.decimal (shortestFrom value inside top left tried).1
      (shortestFrom value inside top left tried).2) = true := by
  induction left generalizing tried with
  | zero => omega
  | succ left ih =>
    unfold shortestFrom
    extract_lets k scale d below above
    by_cases hboth : (below && above) = true
    · rw [if_pos hboth]
      obtain ⟨hbelow, habove⟩ := Bool.and_eq_true_iff.mp hboth
      have hnearer : nearerDigits value d k = d ∨ nearerDigits value d k = d + 1 := by
        unfold nearerDigits
        grind
      show inside.contains (Ratio.decimal (nearerDigits value d k) k) = true
      rcases hnearer with h | h <;> rw [h]
      · exact hbelow
      · exact habove
    · rw [if_neg hboth]
      by_cases hbelow : below = true
      · rw [if_pos hbelow]
        exact hbelow
      · rw [if_neg hbelow]
        by_cases habove : above = true
        · rw [if_pos habove]
          exact habove
        · rw [if_neg habove]
          -- nothing on this grid, so the grid of `j` is a later one
          refine ih ?_ (by omega)
          by_contra h
          obtain rfl : j = tried := by omega
          exact hj.elim hbelow habove

/-! ## Seventeen digits -/

theorem owns_of_near {m : Nat} {q : Int} {v : ℚ} (hlow : (m - reach m q) * 2 ^ q < v)
    (hhigh : v < (m + 1 / 2) * 2 ^ q) : Owns m q v := ⟨hlow.le, hhigh.le, fun _ => ⟨hlow, hhigh⟩⟩

/-- On a grid of seventeen digits one of the neighbours of a double rounds to it. -/
theorem owns_grid {m : Nat} {q : Int} (hc : Canonical m q) {below step : ℚ} (hstep : 0 < step)
    (hfine : step * 10 ^ 16 ≤ m * 2 ^ q) (hbelow : below ≤ m * 2 ^ q)
    (habove : m * 2 ^ q < below + step) : Owns m q below ∨ Owns m q (below + step) := by
  have hunit : (0 : ℚ) < 2 ^ q := by positivity
  have hm : (m : ℚ) ≤ 2 ^ 53 := by exact_mod_cast hc.lt.le
  have hmu : (m : ℚ) * 2 ^ q ≤ 2 ^ 53 * 2 ^ q := mul_le_mul_of_nonneg_right hm hunit.le
  by_cases hpower : m = 2 ^ 52 ∧ -1074 < q
  · -- the number above is less than half a place away
    have hreach : reach m q = 1 / 4 := if_pos hpower
    refine .inr (owns_of_near ?_ ?_)
    · rw [hreach]
      linarith
    · rw [hpower.1] at hfine hbelow ⊢
      push_cast at *
      linarith
  · have hreach : reach m q = 1 / 2 := if_neg hpower
    rcases le_or_gt (m * 2 ^ q - below) (step / 2) with hnear | hfar
    · refine .inl (owns_of_near ?_ ?_)
      · rw [hreach]
        linarith
      · linarith
    · refine .inr (owns_of_near ?_ ?_)
      · rw [hreach]
        linarith
      · linarith

theorem owns_shortest {m : Nat} {q : Int} (hc : Canonical m q) (hm : 0 < m) :
    Owns m q ((shortest m q).1 * 10 ^ (shortest m q).2) := by
  have hcontains (d : Nat) (k : Int) :
      (Interval.around m q).contains (Ratio.decimal d k) = true ↔ Owns m q (d * 10 ^ k) := by
    rw [contains_around_iff hm (Ratio.den_decimal_pos d k), Ratio.value_decimal]
  rw [← hcontains]
  unfold shortest
  extract_lets value
  have hvalue : value.value = m * 2 ^ q := Ratio.value_dyadic m q
  have hden : 0 < value.den := Ratio.den_dyadic_pos m q
  have hnum : 0 < value.num := by
    rcases Nat.eq_zero_or_pos value.num with hzero | hpos
    · have hpos : (0 : ℚ) < m * 2 ^ q := mul_pos (by exact_mod_cast hm) (by positivity)
      rw [← hvalue, Ratio.value, hzero] at hpos
      simp at hpos
    · exact hpos
  have htop := decimalExponent_le hnum hden
  generalize decimalExponent value.num value.den = top at htop ⊢
  refine contains_shortestFrom value _ top (Nat.zero_le 16) (by decide) ?_
  obtain ⟨hbelow, habove⟩ := gridBelow_spec hden (top - (16 : Nat))
  generalize gridBelow value (top - (16 : Nat)) = d at hbelow habove ⊢
  have hfine : (10 : ℚ) ^ (top - (16 : Nat)) * 10 ^ 16 ≤ m * 2 ^ q := by
    rw [← hvalue, ← zpow_natCast, ← zpow_add₀ (by norm_num), sub_add_cancel]
    exact htop
  rw [hvalue] at hbelow habove
  rw [hcontains, hcontains, Nat.cast_add, Nat.cast_one, add_one_mul]
  exact owns_grid hc (by positivity) hfine hbelow habove

/-! ## Digit strings -/

/-- Trailing zeros move into the exponent. -/
theorem trimZeros_spec (ds : List Char) (k : Int) : ∃ zeros : Nat,
    ds = (trimZeros ds k).1 ++ List.replicate zeros '0' ∧ (trimZeros ds k).2 = k + zeros := by
  refine ⟨(ds.reverse.takeWhile (· == '0')).length, ?_, rfl⟩
  have hzeros : ds.reverse.takeWhile (· == '0') =
      List.replicate (ds.reverse.takeWhile (· == '0')).length '0' :=
    List.eq_replicate_of_mem fun c hc => by simpa using List.mem_takeWhile_imp hc
  have hsplit : ds = (ds.reverse.dropWhile (· == '0')).reverse ++
      List.replicate (ds.reverse.takeWhile (· == '0')).length '0' := by
    apply List.reverse_injective
    rw [List.reverse_append, List.reverse_reverse, List.reverse_replicate, ← hzeros,
      List.takeWhile_append_dropWhile]
  have hkept : (trimZeros ds k).1 = (ds.reverse.dropWhile (· == '0')).reverse := by
    unfold trimZeros
    generalize (ds.reverse.takeWhile (· == '0')).length = n at hsplit ⊢
    generalize (ds.reverse.dropWhile (· == '0')).reverse = kept at hsplit ⊢
    subst hsplit
    simp
  rw [hkept]
  exact hsplit

/-- A digit string as it is laid out: not empty, and only zero itself starts with a zero. -/
structure IsNumeral (ds : List Char) : Prop where
  isDigit : ∀ c ∈ ds, c.isDigit = true
  nonempty : ds ≠ []
  lead : ds.head? = some '0' → ds = ['0']

theorem isNumeral_digits (n : Nat) : IsNumeral (digits n) where
  isDigit _ := isDigit_of_mem_digits
  nonempty := Nat.toDigits_ne_nil
  lead h := by
    rcases Nat.eq_zero_or_pos n with rfl | hpos
    · rfl
    · exact absurd h (head?_digits_ne_zero hpos)

theorem isNumeral_trimZeros {d : Nat} (hd : 0 < d) (k : Int) :
    IsNumeral (trimZeros (digits d) k).1 := by
  obtain ⟨zeros, hsplit, -⟩ := trimZeros_spec (digits d) k
  generalize (trimZeros (digits d) k).1 = kept at hsplit ⊢
  have hnonempty : kept ≠ [] := by
    rintro rfl
    have hvalue : Nat.ofDigitChars 10 (digits d) 0 = d := Nat.ofDigitChars_ten_toDigits
    rw [hsplit, List.nil_append, Nat.ofDigitChars_replicate_zero] at hvalue
    omega
  refine ⟨fun c hc => isDigit_of_mem_digits (hsplit ▸ List.mem_append_left _ hc), hnonempty,
    fun h => ?_⟩
  have hhead := head?_digits_ne_zero hd
  rw [hsplit, List.head?_append_of_ne_nil _ hnonempty] at hhead
  exact absurd h hhead

theorem value_trimZeros (d : Nat) (k : Int) :
    (Nat.ofDigitChars 10 (trimZeros (digits d) k).1 0 : ℚ) * 10 ^ (trimZeros (digits d) k).2 =
      d * 10 ^ k := by
  obtain ⟨zeros, hsplit, hexponent⟩ := trimZeros_spec (digits d) k
  have hvalue : Nat.ofDigitChars 10 (digits d) 0 = d := Nat.ofDigitChars_ten_toDigits
  rw [hsplit, Nat.ofDigitChars_append, Nat.ofDigitChars_replicate_zero] at hvalue
  have hvalue : (10 : ℚ) ^ zeros * Nat.ofDigitChars 10 (trimZeros (digits d) k).1 0 = d := by
    exact_mod_cast hvalue
  rw [hexponent, zpow_add₀ (by norm_num), zpow_natCast, ← hvalue]
  ring

/-- The shortest digits of a double. -/
structure IsShortest (m : Nat) (q : Int) (ds : List Char) (k : Int) : Prop where
  numeral : IsNumeral ds
  zero : m = 0 → ds = ['0'] ∧ k = 0
  owned : 0 < m → Owns m q (Nat.ofDigitChars 10 ds 0 * 10 ^ k)

theorem isShortest_shortestDigits {m : Nat} {q : Int} (hc : Canonical m q) :
    IsShortest m q (shortestDigits m q).1 (shortestDigits m q).2 := by
  unfold shortestDigits
  by_cases hm : m = 0
  · rw [if_pos hm]
    exact ⟨isNumeral_digits 0, fun _ => ⟨rfl, rfl⟩, fun hpos => absurd hm (by omega)⟩
  · rw [if_neg hm]
    have hpos : 0 < m := by omega
    have howned := owns_shortest hc hpos
    have hd : 0 < (shortest m q).1 := by
      rcases Nat.eq_zero_or_pos (shortest m q).1 with hzero | hd
      · rw [hzero] at howned
        exact absurd (howned.pos hpos) (by simp)
      · exact hd
    exact ⟨isNumeral_trimZeros hd _, fun hzero => absurd hzero hm,
      fun _ => (value_trimZeros _ _).symm ▸ howned⟩

/-! ## Reading back -/

theorem ofScientific_zero (s : Bool) (exponent : Int) {x : Float} {q : Int}
    (hx : parts x = .finite s 0 q) : ofScientific s 0 exponent = x := by
  have hq : q = -1074 := (canonical_of_parts hx).full.resolve_right (by decide)
  subst hq
  exact ofBits_pack_of_parts hx

/-- No double is so small or so large as the powers of two around all of them. -/
theorem Owns.bounds {m : Nat} {q : Int} (hc : Canonical m q) (hm : 0 < m) {v : ℚ}
    (h : Owns m q v) : 2 ^ (-1075 : Int) ≤ v ∧ v < 2 ^ (1024 : Int) := by
  have hm : (1 : ℚ) ≤ m := by exact_mod_cast hm
  have hlt : (m : ℚ) + 1 ≤ 2 ^ 53 := by exact_mod_cast hc.lt
  constructor
  · calc (2 : ℚ) ^ (-1075 : Int) = 1 / 2 * 2 ^ (-1074 : Int) := by
          rw [show (-1075 : Int) = -1 + -1074 by rfl, zpow_add₀ two_ne_zero]
          norm_num
      _ ≤ (m - reach m q) * 2 ^ q := by
        have := reach_le m q
        exact mul_le_mul (by linarith) (zpow_le_zpow_right₀ one_le_two hc.least) (by positivity)
          (by linarith)
      _ ≤ v := h.low
  · calc v ≤ ((m : ℚ) + 1 / 2) * 2 ^ q := h.high
      _ < 2 ^ 53 * 2 ^ (971 : Int) := by
        exact mul_lt_mul (by linarith) (zpow_le_zpow_right₀ one_le_two hc.greatest)
          (by positivity) (by positivity)
      _ = 2 ^ (1024 : Int) := by
        rw [show (1024 : Int) = 53 + 971 by rfl, zpow_add₀ two_ne_zero]
        norm_num

/-- How large a decimal number is, from its digits. -/
theorem magnitude_bounds {mantissa : Nat} (hmantissa : 0 < mantissa) (exponent : Int) :
    (10 : ℚ) ^ (((digits mantissa).length : Int) - 1 + exponent) ≤ mantissa * 10 ^ exponent ∧
      (mantissa : ℚ) * 10 ^ exponent < 10 ^ (((digits mantissa).length : Int) + exponent) := by
  have hten : (10 : ℚ) ≠ 0 := by norm_num
  have hscale : (0 : ℚ) < 10 ^ exponent := by positivity
  have hlength := length_digits_pos mantissa
  constructor
  · rw [zpow_add₀ hten, ← Nat.cast_one, ← Nat.cast_sub hlength, zpow_natCast]
    exact mul_le_mul_of_nonneg_right (by exact_mod_cast pow_length_digits_le hmantissa) hscale.le
  · rw [zpow_add₀ hten, zpow_natCast]
    exact mul_lt_mul_of_pos_right (by exact_mod_cast lt_pow_length_digits mantissa) hscale

/-- No double is so small or so large that its digits are not read. -/
theorem magnitude_of_owns {m : Nat} {q : Int} (hc : Canonical m q) (hm : 0 < m) {mantissa : Nat}
    {exponent : Int} (hmantissa : 0 < mantissa) (h : Owns m q (mantissa * 10 ^ exponent)) :
    -400 ≤ ((digits mantissa).length : Int) + exponent ∧
      ((digits mantissa).length : Int) + exponent ≤ 400 := by
  obtain ⟨hlow, hhigh⟩ := h.bounds hc hm
  obtain ⟨hlower, hupper⟩ := magnitude_bounds hmantissa exponent
  have hpower : (2 : ℚ) ^ (1200 : Int) ≤ 10 ^ (400 : Int) :=
    calc (2 : ℚ) ^ (1200 : Int) = (2 ^ (3 : Int)) ^ (400 : Int) := by
          rw [← zpow_mul, show (3 : Int) * 400 = 1200 by rfl]
      _ ≤ 10 ^ (400 : Int) := zpow_le_zpow_left₀ (by decide) (by norm_num) (by norm_num)
  constructor
  · have hleast : (10 : ℚ) ^ (-400 : Int) ≤ 2 ^ (-1075 : Int) := by
      rw [zpow_neg, zpow_neg]
      exact inv_anti₀ (by positivity)
        ((zpow_le_zpow_right₀ one_le_two (by decide)).trans hpower)
    have := (zpow_lt_zpow_iff_right₀ (by norm_num)).mp
      (hleast.trans_lt (hlow.trans_lt hupper))
    omega
  · have hgreatest : (2 : ℚ) ^ (1024 : Int) ≤ 10 ^ (400 : Int) :=
      (zpow_le_zpow_right₀ one_le_two (by decide)).trans hpower
    have := (zpow_lt_zpow_iff_right₀ (by norm_num)).mp
      (hlower.trans_lt (hhigh.trans_le hgreatest))
    omega

/-- A decimal number in the interval of a double is read as that double. -/
theorem ofScientific_of_owns {x : Float} {s : Bool} {m : Nat} {q : Int}
    (hx : parts x = .finite s m q) (hm : 0 < m) {mantissa : Nat} {exponent : Int}
    (h : Owns m q (mantissa * 10 ^ exponent)) : ofScientific s mantissa exponent = x := by
  have hc := canonical_of_parts hx
  have hmantissa : 0 < mantissa := by
    rcases Nat.eq_zero_or_pos mantissa with rfl | hpos
    · exact absurd (h.pos hm) (by simp)
    · exact hpos
  obtain ⟨hleast, hgreatest⟩ := magnitude_of_owns hc hm hmantissa h
  unfold ofScientific
  extract_lets magnitude r
  have hmagnitude : magnitude = ((digits mantissa).length : Int) + exponent := rfl
  rw [if_neg (by omega), if_neg (by omega), ← ofBits_pack_of_parts hx]
  rw [← Ratio.value_decimal] at h
  exact nearest_of_owns s hc hm (Ratio.den_decimal_pos _ _) h

end TrustGate.Decimal
