import TrustGate.Der.Element
import TrustGate.Time.Calendar
import TrustGate.Encoding.Utf8

/-!
# DER primitives

Whole numbers, object identifiers, bit strings, times and the restricted string
types, each from the content octets of an element.
-/

namespace TrustGate.Der

/-! ## Numbers and truth values -/

/-- The first octet of a number is not to spare: nine equal bits at the front are refused. -/
def isMinimal : Octets → Bool
  | [] => false
  | [_] => true
  | a :: b :: _ => !((a == 0 && b < 128) || (a == 255 && 128 ≤ b))

/-- A whole number in two's complement. -/
def integer? (bs : Octets) : Option Int :=
  if isMinimal bs then
    let n : Nat := bs.foldl (fun n b => n * 256 + b.toNat) 0
    if bs.headD 0 < 128 then some n else some ((n : Int) - (Nat.pow 256 bs.length : Int))
  else none

def boolean? : Octets → Option Bool
  | [0] => some false
  | [255] => some true
  | _ => none

def null? : Octets → Option Unit
  | [] => some ()
  | _ => none

/-! ## Object identifiers -/

/-- An object identifier by its arcs. -/
abbrev Oid := List Nat

def oidArcs : (fuel : Nat) → Octets → Option (List Nat)
  | _, [] => some []
  | 0, _ :: _ => none
  | fuel + 1, bs => do
    let (arc, rest) ← takeBase128? bs
    let arcs ← oidArcs fuel rest
    return arc :: arcs

/-- The first number holds the first two arcs. -/
def oid? (bs : Octets) : Option Oid :=
  if 63 < bs.length then none
  else
    match oidArcs bs.length bs with
    | some (n :: arcs) =>
      if n < 40 then some (0 :: n :: arcs)
      else if n < 80 then some (1 :: (n - 40) :: arcs)
      else some (2 :: (n - 80) :: arcs)
    | _ => none

/-- The dotted text of an object identifier. -/
def oidText (oid : Oid) : String := String.intercalate "." (oid.map toString)

/-! ## Bit strings -/

/-- The octets of a bit string; unused bits are zero. -/
def bitString? : Octets → Option Octets
  | [] => none
  | unused :: bs =>
    if 7 < unused then none
    else
      match bs.getLast? with
      | none => if unused = 0 then some [] else none
      | some last => if last.toNat % Nat.pow 2 unused.toNat = 0 then some bs else none

/-! ## Times -/

def asciiChars (bs : Octets) : List Char := bs.map fun b => Char.ofNat b.toNat

/-- Month, day and time of day after the year, ending in `Z`. -/
def restOfTime? (year : Nat) (cs : List Char) : Option Time.DateTime := do
  let (month, cs) ← Time.takeNumber? 2 cs
  let (day, cs) ← Time.takeNumber? 2 cs
  let (hour, cs) ← Time.takeNumber? 2 cs
  let (minute, cs) ← Time.takeNumber? 2 cs
  let (second, cs) ← Time.takeNumber? 2 cs
  let date : Time.Date := ⟨year, month, day⟩
  let clock : Time.Clock := ⟨hour, minute, second, 0⟩
  if cs = ['Z'] ∧ date.isValid ∧ clock.isValid then return ⟨date, clock, some 0⟩ else none

/-- A time with a year of two digits, from 1950 to 2049. -/
def utcTime? (bs : Octets) : Option Time.DateTime := do
  let (year, cs) ← Time.takeNumber? 2 (asciiChars bs)
  restOfTime? (if 50 ≤ year then 1900 + year else 2000 + year) cs

/-- A time with a year of four digits. -/
def generalizedTime? (bs : Octets) : Option Time.DateTime := do
  let (year, cs) ← Time.takeNumber? 4 (asciiChars bs)
  restOfTime? year cs

def time? (e : Element) : Option Time.DateTime :=
  if e.tag = universal 23 then utcTime? e.content
  else if e.tag = universal 24 then generalizedTime? e.content
  else none

/-! ## Strings -/

def isPrintableOctet (b : UInt8) : Bool :=
  let c := Char.ofNat b.toNat
  b < 128 && (c.isAlphanum || " '()+,-./:=?".toList.contains c)

def printableString? (bs : Octets) : Option String :=
  if bs.all isPrintableOctet then some (String.ofList (asciiChars bs)) else none

/-- Two octets a unit; two surrogate units make one character. -/
def bmpChars : Octets → Option (List Char)
  | [] => some []
  | a :: b :: rest =>
    let unit := a.toNat * 256 + b.toNat
    if unit < 0xD800 ∨ 0xDFFF < unit then (bmpChars rest).map (Char.ofNat unit :: ·)
    else if 0xDBFF < unit then none
    else
      match rest with
      | c :: d :: rest =>
        let low := c.toNat * 256 + d.toNat
        if 0xDC00 ≤ low ∧ low ≤ 0xDFFF then
          (bmpChars rest).map
            (Char.ofNat (0x10000 + (unit - 0xD800) * 0x400 + (low - 0xDC00)) :: ·)
        else none
      | _ => none
  | [_] => none

def bmpString? (bs : Octets) : Option String := (bmpChars bs).map String.ofList

/-- Four octets a character. -/
def universalChars : Octets → Option (List Char)
  | [] => some []
  | a :: b :: c :: d :: rest =>
    let n := ((a.toNat * 256 + b.toNat) * 256 + c.toNat) * 256 + d.toNat
    if n.isValidChar then (universalChars rest).map (Char.ofNat n :: ·) else none
  | _ => none

def universalString? (bs : Octets) : Option String := (universalChars bs).map String.ofList

end TrustGate.Der
