import TrustGate.Decimal.Binary64

/-!
# Shortest digits

The fewest decimal digits that read back as a given double, and of those the
nearest to it.  A double `m · 2^q` owns the interval of numbers that round to it
(its ends included iff `m` is even).  For 1, 2, … 17 digits the two neighbours of
the value on that decimal grid are tried; the first grid with a neighbour inside
the interval wins, of two the nearer one, and a tie goes to the even digit.

    shortest m q = (d, k)    reads back: d · 10^k lies in the interval of m · 2^q
-/

namespace TrustGate.Decimal

/-- Decimal digits of a number, most significant first; zero has one digit. -/
def digits (n : Nat) : List Char := (Nat.toDigits 10 n)

/-- The greatest `k` with `10^k ≤ num / den`, for a positive fraction. -/
def decimalExponent (num den : Nat) : Int :=
  let guess : Int := ((digits num).length : Int) - ((digits den).length : Int)
  -- The true exponent is the guess or one less.
  if (Ratio.decimal 1 guess).le ⟨num, den⟩ then guess else guess - 1

/-- The numbers that round to one double: between `low` and `high`, ends included if `closed`. -/
structure Interval where
  low : Ratio
  high : Ratio
  closed : Bool

/-- The interval of `m · 2 ^ q`: half a place on either side, a quarter below a power of two
that has a smaller place beneath it. -/
def Interval.around (m : Nat) (q : Int) : Interval :=
  let below : Nat := if m = Nat.pow 2 52 ∧ -1074 < q then 1 else 2
  { low := Ratio.dyadic (4 * m - below) (q - 2)
    high := Ratio.dyadic (4 * m + 2) (q - 2)
    closed := m % 2 == 0 }

def Interval.contains (i : Interval) (r : Ratio) : Bool :=
  if i.closed then i.low.le r && r.le i.high else i.low.lt r && r.lt i.high

/-- The distance of two fractions, as a fraction. -/
def Ratio.distance (a b : Ratio) : Ratio :=
  let x := a.num * b.den
  let y := b.num * a.den
  ⟨(x - y) + (y - x), a.den * b.den⟩

/-- The nearer of two neighbours on a grid, the even one on a tie. -/
def nearerDigits (value : Ratio) (d : Nat) (k : Int) : Nat :=
  let below := value.distance (Ratio.decimal d k)
  let above := value.distance (Ratio.decimal (d + 1) k)
  if below.lt above then d else if above.lt below then d + 1
  else if d % 2 = 0 then d else d + 1

/-- Tries grids of `tried + 1`, `tried + 2`, … digits, at most `left` of them. -/
def shortestFrom (value : Ratio) (inside : Interval) (top : Int) :
    (left tried : Nat) → Nat × Int
  | 0, tried => (0, top - tried)
  | left + 1, tried =>
    let k := top - tried
    let scale := Ratio.decimal 1 k
    let d := (value.num * scale.den) / (value.den * scale.num)
    let below := inside.contains (Ratio.decimal d k)
    let above := inside.contains (Ratio.decimal (d + 1) k)
    if below && above then (nearerDigits value d k, k)
    else if below then (d, k)
    else if above then (d + 1, k)
    else shortestFrom value inside top left (tried + 1)

/-- The shortest digits of a positive double. -/
def shortest (m : Nat) (q : Int) : Nat × Int :=
  let value := Ratio.dyadic m q
  shortestFrom value (Interval.around m q) (decimalExponent value.num value.den) 17 0

/-- Drops the trailing zeros of a digit string; the number dropped is added to the exponent. -/
def trimZeros (ds : List Char) (k : Int) : List Char × Int :=
  let zeros := (ds.reverse.takeWhile (· == '0')).length
  (ds.take (ds.length - zeros), k + zeros)

/-- The shortest digits as a digit string without trailing zeros, with the exponent of the
last digit; zero is the one digit 0. -/
def shortestDigits (m : Nat) (q : Int) : List Char × Int :=
  if m = 0 then (['0'], 0)
  else
    let (d, k) := shortest m q
    trimZeros (digits d) k

end TrustGate.Decimal
