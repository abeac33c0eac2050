import TrustGate.Decimal.Binary64
import TrustGate.Text.Class

/-!
# Reading numbers

Whole and decimal numbers as a person types them: blanks around the number, a
sign, digits of any script with single underscores between them, and for decimal
numbers a point, an exponent, infinity and NaN.
-/

namespace TrustGate.Decimal

open Text

/-- The double nearest `± mantissa · 10 ^ exponent`. -/
def ofScientific (negative : Bool) (mantissa : Nat) (exponent : Int) : Float :=
  let magnitude : Int := (Nat.toDigits 10 mantissa).length + exponent
  if mantissa = 0 ∨ magnitude < -400 then nearest negative 0 1
  else if 400 < magnitude then (if negative then negativeInfinity else infinity)
  else
    let r := Ratio.decimal mantissa exponent
    nearest negative r.num r.den

/-- The number that a list of digit values writes. -/
def ofDigits (ds : List Nat) : Nat := ds.foldl (fun n d => n * 10 + d) 0

/-- Digits at the front, single underscores between them allowed; the digits and what follows. -/
def takeDigits : List Char → List Nat × List Char
  | [] => ([], [])
  | '_' :: c :: rest =>
    -- An underscore is taken only before a digit; `readDigits` asks for one before it too.
    match decimalDigit? c with
    | some d => let (ds, rest) := takeDigits rest; (d :: ds, rest)
    | none => ([], '_' :: c :: rest)
  | c :: rest =>
    match decimalDigit? c with
    | some d => let (ds, rest) := takeDigits rest; (d :: ds, rest)
    | none => ([], c :: rest)

/-- A digit group, which may not start with an underscore. -/
def readDigits : List Char → List Nat × List Char
  | '_' :: rest => ([], '_' :: rest)
  | cs => takeDigits cs

def takeSign : List Char → Bool × List Char
  | '-' :: cs => (true, cs)
  | '+' :: cs => (false, cs)
  | cs => (false, cs)

/-- The most digits a whole number may have, where it is read and where it is written. -/
def digitLimit : Nat := 4300

/-- Whether a whole number is short enough to be written. -/
def hasText (i : Int) : Bool := decide (i.natAbs < Nat.pow 10 digitLimit)

/-- Reads a whole number. -/
def readInt? (text : String) : Option Int :=
  let (negative, cs) := takeSign (dropBlanks text.toList)
  match readDigits cs with
  | (d :: ds, []) =>
    if digitLimit < ds.length + 1 then none
    else
      let n : Int := ofDigits (d :: ds)
      some (if negative then -n else n)
  | _ => none

/-- An exponent part at the front, if a whole one stands there. -/
def takeExponent (cs : List Char) : Int × List Char :=
  match cs with
  | c :: rest =>
    if c = 'e' ∨ c = 'E' then
      let (negative, digitsAndRest) := takeSign rest
      match readDigits digitsAndRest with
      | ([], _) => (0, cs)
      | (ds, rest) =>
        let n : Int := ofDigits ds
        (if negative then -n else n, rest)
    else (0, cs)
  | [] => (0, [])

/-- Reads a decimal number. -/
def readFloat? (text : String) : Option Float :=
  let (negative, cs) := takeSign (dropBlanks text.toList)
  let name := String.ofList (cs.map Char.toLower)
  if name = "inf" ∨ name = "infinity" then some (if negative then negativeInfinity else infinity)
  else if name = "nan" then some notANumber
  else
    let (whole, cs) := readDigits cs
    let (fraction, cs) := match cs with
      | '.' :: rest => readDigits rest
      | _ => ([], cs)
    if whole.isEmpty ∧ fraction.isEmpty then none
    else
      match takeExponent cs with
      | (e, []) => some (ofScientific negative (ofDigits (whole ++ fraction)) (e - fraction.length))
      | _ => none

end TrustGate.Decimal
