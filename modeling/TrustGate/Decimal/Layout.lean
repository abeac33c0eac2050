import TrustGate.Decimal.Shortest

/-!
# Layouts of decimal text

Two formats of this library write floats with their shortest digits and differ
only in the layout: where positional notation ends, and how an exponent looks.
A `Layout` holds these decisions.

    Layout.plain     1e-05   0.0001   1.0   1e+16     in messages and tables
    Layout.json      1e-6    0.00001  1.0   1e16      in JSON documents
-/

namespace TrustGate.Decimal

/-- How a digit string with an exponent is laid out. -/
structure Layout where
  /-- Positional notation is used while the point stands after more than this many places. -/
  leastPoint : Int
  /-- … and after at most this many. -/
  greatestPoint : Int
  /-- Whether a positive exponent has a sign. -/
  plusSign : Bool
  /-- The least number of exponent digits. -/
  exponentWidth : Nat
  deriving DecidableEq, Repr

/-- The layout of floats in messages: positional from `0.0001` below `10^16`, exponents with a
sign and two digits. -/
def Layout.plain : Layout := ⟨-4, 16, true, 2⟩

/-- The layout of floats in JSON documents: positional from `0.00001` up to sixteen places before
the point, exponents as short as they go. -/
def Layout.json : Layout := ⟨-5, 16, false, 1⟩

def padLeft (c : Char) (width : Nat) (cs : List Char) : List Char :=
  List.replicate (width - cs.length) c ++ cs

/-- The exponent part, `e` included. -/
def Layout.exponentText (l : Layout) (e : Int) : List Char :=
  let sign := if e < 0 then ['-'] else if l.plusSign then ['+'] else []
  'e' :: sign ++ padLeft '0' l.exponentWidth (digits e.natAbs)

/-- Lays out `ds · 10 ^ k`; a positional number always has a digit after the point. -/
def Layout.place (l : Layout) (ds : List Char) (k : Int) : List Char :=
  let point : Int := ds.length + k
  if l.leastPoint < point ∧ point ≤ l.greatestPoint then
    if 0 ≤ k then ds ++ List.replicate k.toNat '0' ++ ['.', '0']
    else if 0 < point then ds.take point.toNat ++ '.' :: ds.drop point.toNat
    else ['0', '.'] ++ List.replicate (-point).toNat '0' ++ ds
  else
    let rest := ds.drop 1
    ds.take 1 ++ (if rest.isEmpty then [] else '.' :: rest) ++ l.exponentText (point - 1)

/-- The text of a float: shortest digits in the given layout. -/
def Layout.text (l : Layout) (x : Float) : String :=
  match parts x with
  | .nan => "nan"
  | .infinite negative => if negative then "-inf" else "inf"
  | .finite negative m q =>
    let (ds, k) := shortestDigits m q
    String.ofList ((if negative then ['-'] else []) ++ l.place ds k)

end TrustGate.Decimal
