/-!
# Binary64: the exact value of a float, and the float nearest an exact value

A finite double is `± m · 2^q` with `m < 2^53` and `-1074 ≤ q ≤ 971`.  Everything
here is integer arithmetic on `m` and `q`; the only primitives used are the two
bit casts.

    parts x        the sign, `m` and `q` of `x`, or infinity or NaN
    nearest s n d  the double nearest `± n / d`, a tie going to the even significand

    roundHalfEven n d is at most half a unit from `n / d`    (roundHalfEven_within)
-/

namespace TrustGate.Decimal

/-- What a double stands for. -/
inductive Parts where
  | nan
  | infinite (negative : Bool)
  /-- The number `± significand · 2 ^ exponent`. -/
  | finite (negative : Bool) (significand : Nat) (exponent : Int)
  deriving DecidableEq, Repr

/-- The fields of a word: one sign bit, eleven exponent bits, fifty-two fraction bits. -/
def Parts.ofBits (bits : UInt64) : Parts :=
  let word := bits.toNat
  let negative := decide (Nat.pow 2 63 ≤ word)
  let field : Nat := word / Nat.pow 2 52 % Nat.pow 2 11
  let fraction : Nat := word % Nat.pow 2 52
  if field = 2047 then (if fraction = 0 then .infinite negative else .nan)
  else if field = 0 then .finite negative fraction (-1074)
  else .finite negative (Nat.pow 2 52 + fraction) ((field : Int) - 1075)

def parts (x : Float) : Parts := Parts.ofBits x.toBits

/-- A nonnegative fraction `num / den`, the form in which exact values are compared. -/
structure Ratio where
  num : Nat
  den : Nat
  deriving DecidableEq, Repr

/-- The fraction `m · 2 ^ q`. -/
def Ratio.dyadic (m : Nat) (q : Int) : Ratio :=
  if 0 ≤ q then ⟨m * Nat.pow 2 q.toNat, 1⟩ else ⟨m, Nat.pow 2 (-q).toNat⟩

/-- The fraction `m · 10 ^ e`. -/
def Ratio.decimal (m : Nat) (e : Int) : Ratio :=
  if 0 ≤ e then ⟨m * Nat.pow 10 e.toNat, 1⟩ else ⟨m, Nat.pow 10 (-e).toNat⟩

def Ratio.lt (a b : Ratio) : Bool := a.num * b.den < b.num * a.den

def Ratio.le (a b : Ratio) : Bool := a.num * b.den ≤ b.num * a.den

/-- The integer nearest `num / den`; a tie goes to the even one. -/
def roundHalfEven (num den : Nat) : Nat :=
  let quotient := num / den
  let twice := 2 * (num % den)
  if twice < den then quotient
  else if den < twice then quotient + 1
  else if quotient % 2 = 0 then quotient else quotient + 1

/-- The rounded number is within half a unit of the quotient. -/
theorem roundHalfEven_within (num : Nat) {den : Nat} (h : 0 < den) :
    2 * num ≤ (2 * roundHalfEven num den + 1) * den ∧
      2 * roundHalfEven num den * den ≤ 2 * num + den := by
  have whole := Nat.div_add_mod num den
  have below := Nat.mod_lt num h
  unfold roundHalfEven
  generalize num / den = q at *
  generalize num % den = r at *
  subst whole
  have product (k : Nat) : (2 * q + k) * den = 2 * (den * q) + k * den := by
    rw [Nat.add_mul, Nat.mul_assoc, Nat.mul_comm q]
  have down : 2 * (den * q + r) ≤ (2 * q + 1) * den ∧ 2 * q * den ≤ 2 * (den * q + r) + den ↔
      2 * r ≤ den := by
    have := product 0
    have := product 1
    simp only [Nat.add_zero] at *
    omega
  have up : 2 * (den * q + r) ≤ (2 * (q + 1) + 1) * den ∧
      2 * (q + 1) * den ≤ 2 * (den * q + r) + den ↔ den ≤ 2 * r := by
    have := product 2
    have := product 3
    rw [show 2 * (q + 1) + 1 = 2 * q + 3 by omega, show 2 * (q + 1) = 2 * q + 2 by omega]
    omega
  by_cases less : 2 * r < den
  · simpa [less] using down.2 (by omega)
  · by_cases more : den < 2 * r
    · simpa [less, more] using up.2 (by omega)
    · by_cases even : q % 2 = 0
      · simpa [less, more, even] using down.2 (by omega)
      · simpa [less, more, even] using up.2 (by omega)

/-- The number of binary digits of `n`. -/
def bitLength (n : Nat) : Nat := if n = 0 then 0 else n.log2 + 1

/-- The word of `± significand · 2 ^ exponent`, for a significand of at most fifty-three digits
whose exponent is least or whose leading digit is set; too large an exponent gives infinity. -/
def pack (negative : Bool) (significand : Nat) (exponent : Int) : UInt64 :=
  let sign : Nat := if negative then Nat.pow 2 63 else 0
  let (significand, exponent) :=
    if significand = Nat.pow 2 53 then (Nat.pow 2 52, exponent + 1) else (significand, exponent)
  let magnitude : Nat :=
    if significand < Nat.pow 2 52 then significand
    else if 971 < exponent then 2047 * Nat.pow 2 52
    else (exponent + 1075).toNat * Nat.pow 2 52 + (significand - Nat.pow 2 52)
  UInt64.ofNat (sign + magnitude)

/-- The exponent of the last place of the doubles around `num / den`. -/
def lastPlace (num den : Nat) : Int :=
  let guess : Int := (bitLength num : Int) - (bitLength den : Int) - 53
  -- The quotient has fifty-three or fifty-four digits at the first guess.
  let scaled : Ratio := if 0 ≤ guess then ⟨num, den * Nat.pow 2 guess.toNat⟩
    else ⟨num * Nat.pow 2 (-guess).toNat, den⟩
  let place := if scaled.num / scaled.den < Nat.pow 2 53 then guess else guess + 1
  max place (-1074)

/-- The double nearest `± num / den`. -/
def nearest (negative : Bool) (num den : Nat) : Float :=
  if num = 0 ∨ den = 0 then Float.ofBits (pack negative 0 (-1074))
  else
    let place := lastPlace num den
    let significand :=
      if 0 ≤ place then roundHalfEven num (den * Nat.pow 2 place.toNat)
      else roundHalfEven (num * Nat.pow 2 (-place).toNat) den
    Float.ofBits (pack negative significand place)

/-- The double nearest an integer. -/
def ofInt (i : Int) : Float := nearest (decide (i < 0)) i.natAbs 1

/-- Whether an integer is within the range of doubles once rounded. -/
def fitsBinary64 (i : Int) : Bool := i.natAbs < Nat.pow 2 1024 - Nat.pow 2 970

def infinity : Float := Float.ofBits (UInt64.ofNat (2047 * Nat.pow 2 52))

def negativeInfinity : Float := Float.ofBits (UInt64.ofNat (Nat.pow 2 63 + 2047 * Nat.pow 2 52))

def notANumber : Float := Float.ofBits (UInt64.ofNat (2047 * Nat.pow 2 52 + Nat.pow 2 51))

/-- A finite double cut towards zero. -/
def truncate? (x : Float) : Option Int :=
  match parts x with
  | .finite negative m q =>
    let r := Ratio.dyadic m q
    let n : Int := r.num / r.den
    some (if negative then -n else n)
  | _ => none

/-- Whether a double is the given integer exactly. -/
def equalsInt (x : Float) (i : Int) : Bool :=
  match parts x with
  | .finite negative m q =>
    let r := Ratio.dyadic m q
    r.num == i.natAbs * r.den && (i == 0 || negative == decide (i < 0))
  | _ => false

end TrustGate.Decimal
