import TrustGate.Decimal.Layout

/-!
# Rounded decimal text

A float written with a given number of places: fixed (`2.500`), scientific
(`2.5e+00`) or general (`2.5`).  The exact value is rounded, a tie going to the
even digit.  With `keepPoint` a decimal point stands even if no digit follows it, and the
general form keeps its trailing zeros.
-/

namespace TrustGate.Decimal

/-- The digits before and after a decimal point. -/
def joined (keepPoint : Bool) (whole rest : List Char) : List Char :=
  whole ++ (if rest.isEmpty && !keepPoint then [] else '.' :: rest)

/-- The digits of a fraction rounded to `places` places after the point. -/
def fixedDigits (places : Nat) (keepPoint : Bool) (r : Ratio) : List Char :=
  let n := roundHalfEven (r.num * Nat.pow 10 places) r.den
  let ds := padLeft '0' (places + 1) (digits n)
  joined keepPoint (ds.take (ds.length - places)) (ds.drop (ds.length - places))

/-- A positive fraction rounded to `count` significant digits: the digits and the exponent of the
first one. -/
def significant (count : Nat) (r : Ratio) : List Char × Int :=
  if r.num = 0 then (List.replicate count '0', 0)
  else
    let top := decimalExponent r.num r.den
    let scale := Ratio.decimal 1 (top - (count - 1 : Nat))
    let n := roundHalfEven (r.num * scale.den) (r.den * scale.num)
    let ds := digits n
    -- Rounding may carry into one more digit, which is then a zero at the end.
    if count < ds.length then (ds.take count, top + 1) else (ds, top)

/-- Digits with the point after the first one. -/
def pointed (keepPoint : Bool) (ds : List Char) : List Char :=
  joined keepPoint (ds.take 1) (ds.drop 1)

/-- The digits of a fraction with one digit before the point and `places` after it. -/
def scientificDigits (places : Nat) (keepPoint : Bool) (r : Ratio) : List Char :=
  let (ds, e) := significant (places + 1) r
  pointed keepPoint ds ++ Layout.plain.exponentText e

def dropZeros (ds : List Char) : List Char := (ds.reverse.dropWhile (· == '0')).reverse

/-- At most `count` significant digits without trailing zeros, positional while the exponent of
the first digit is at least `-4` and below `count`.  With `keepPoint` the zeros stay. -/
def generalDigits (count : Nat) (keepPoint : Bool) (r : Ratio) : List Char :=
  let count := if count = 0 then 1 else count
  let (ds, e) := significant count r
  let kept := if keepPoint then ds else
    let trimmed := dropZeros ds
    if trimmed.isEmpty then ['0'] else trimmed
  if -4 ≤ e ∧ e < count then
    if e < 0 then
      ['0', '.'] ++ List.replicate (-e - 1).toNat '0' ++ kept
    else
      let before := (e + 1).toNat
      let whole := kept.take before ++ List.replicate (before - kept.length) '0'
      joined keepPoint whole (kept.drop before)
  else pointed keepPoint kept ++ Layout.plain.exponentText e

/-- Which of the three forms is asked for. -/
inductive RoundedForm where
  | fixed | scientific | general
  deriving DecidableEq, Repr

/-- The unsigned text of a float in a rounded form; infinity and NaN have their names. -/
def RoundedForm.unsigned (form : RoundedForm) (precision : Nat) (keepPoint : Bool) (x : Float) :
    List Char :=
  match parts x with
  | .nan => "nan".toList
  | .infinite _ => "inf".toList
  | .finite _ m q =>
    let r := Ratio.dyadic m q
    match form with
    | .fixed => fixedDigits precision keepPoint r
    | .scientific => scientificDigits precision keepPoint r
    | .general => generalDigits precision keepPoint r

/-- Whether the text of a float starts with a minus sign. -/
def isNegative (x : Float) : Bool :=
  match parts x with
  | .nan => false
  | .infinite negative => negative
  | .finite negative _ _ => negative

/-- A float with a fixed number of places. -/
def fixed (places : Nat) (x : Float) : String :=
  String.ofList ((if isNegative x then ['-'] else []) ++ RoundedForm.fixed.unsigned places false x)

end TrustGate.Decimal
