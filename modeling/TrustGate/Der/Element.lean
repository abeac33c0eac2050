import TrustGate.Value.Basic

/-!
# DER elements

An element is a tag, a length and as many content octets.  Only the one shortest
form of a tag and of a length is accepted.

    takeElement? bs = some (e, rest)    e stands at the front of bs
    elements? bs                        bs as a sequence of elements, nothing left over
-/

namespace TrustGate.Der

inductive TagClass where
  | universal | application | context | «private»
  deriving DecidableEq, Repr

structure Tag where
  tagClass : TagClass
  constructed : Bool
  number : Nat
  deriving DecidableEq, Repr

structure Element where
  tag : Tag
  content : Octets
  /-- All octets of the element, tag and length included. -/
  whole : Octets
  deriving DecidableEq, Repr

def universal (number : Nat) : Tag := ⟨.universal, false, number⟩

def tagBoolean : Tag := universal 1
def tagInteger : Tag := universal 2
def tagBitString : Tag := universal 3
def tagOctetString : Tag := universal 4
def tagNull : Tag := universal 5
def tagOid : Tag := universal 6
def tagSequence : Tag := ⟨.universal, true, 16⟩
def tagSet : Tag := ⟨.universal, true, 17⟩

/-- A tag of a field; `constructed` if it holds elements. -/
def contextTag (number : Nat) (constructed : Bool) : Tag := ⟨.context, constructed, number⟩

/-- The one octet of a short tag. -/
def Tag.octet? (t : Tag) : Option Nat :=
  if t.number < 31 then
    let cls := match t.tagClass with
      | .universal => 0
      | .application => 64
      | .context => 128
      | .«private» => 192
    some (cls + (if t.constructed then 32 else 0) + t.number)
  else none

def TagClass.ofOctet (b : UInt8) : TagClass :=
  match b.toNat / 64 with
  | 0 => .universal
  | 1 => .application
  | 2 => .context
  | _ => .«private»

/-- A number in octets of seven bits, all but the last one marked. -/
def takeBase128 : Nat → Octets → Option (Nat × Octets)
  | _, [] => none
  | n, b :: rest =>
    let n := n * 128 + b.toNat % 128
    if b < 128 then some (n, rest) else takeBase128 n rest

/-- A number in octets of seven bits whose first octet is not empty. -/
def takeBase128? : Octets → Option (Nat × Octets)
  | [] => none
  | b :: rest => if b = 128 then none else takeBase128 0 (b :: rest)

def takeTag? : Octets → Option (Tag × Octets)
  | [] => none
  | b :: rest =>
    let cls := TagClass.ofOctet b
    let constructed := b.toNat / 32 % 2 == 1
    let low := b.toNat % 32
    if low < 31 then some (⟨cls, constructed, low⟩, rest)
    else
      match takeBase128? rest with
      | some (n, rest) =>
        if n < 31 ∨ Nat.pow 2 32 ≤ n then none else some (⟨cls, constructed, n⟩, rest)
      | none => none

/-- A length in one octet, or in up to four after their number, none of them to spare. -/
def takeLength? : Octets → Option (Nat × Octets)
  | [] => none
  | b :: rest =>
    if b < 128 then some (b.toNat, rest)
    else
      let count := b.toNat - 128
      if count = 0 ∨ 4 < count ∨ rest.length < count then none
      else
        let n := (rest.take count).foldl (fun n b => n * 256 + b.toNat) 0
        let least := if count = 1 then 128 else Nat.pow 256 (count - 1)
        if n < least then none else some (n, rest.drop count)

def takeElement? (bs : Octets) : Option (Element × Octets) := do
  let (tag, afterTag) ← takeTag? bs
  let (length, afterLength) ← takeLength? afterTag
  if afterLength.length < length then none
  else
    let rest := afterLength.drop length
    return (⟨tag, afterLength.take length, bs.take (bs.length - rest.length)⟩, rest)

/-- Splits octets into elements; every element has at least two octets. -/
def elementsWithin : (fuel : Nat) → Octets → Option (List Element)
  | _, [] => some []
  | 0, _ :: _ => none
  | fuel + 1, bs => do
    let (e, rest) ← takeElement? bs
    let es ← elementsWithin fuel rest
    return e :: es

def elements? (bs : Octets) : Option (List Element) := elementsWithin bs.length bs

/-- The content of an element that has the given tag. -/
def Element.expect (e : Element) (tag : Tag) : Option Octets :=
  if e.tag = tag then some e.content else none

/-- The elements inside an element that has the given tag. -/
def Element.inside (e : Element) (tag : Tag) : Option (List Element) :=
  (e.expect tag).bind elements?

/-- A single element, nothing after it. -/
def single? (bs : Octets) : Option Element :=
  match takeElement? bs with
  | some (e, []) => some e
  | _ => none

/-- The first element if it has the given tag, and the others. -/
def takeTagged (tag : Tag) : List Element → Option Element × List Element
  | [] => (none, [])
  | e :: es => if e.tag = tag then (some e, es) else (none, e :: es)

end TrustGate.Der
