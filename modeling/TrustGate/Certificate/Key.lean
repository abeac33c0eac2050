import TrustGate.Certificate.Basic

/-!
# Public keys

The kind of a certificate's key, which names how a server authenticates.  The key
itself is looked at: its numbers must be readable, its length right, and a point
of a well-known curve on that curve.
-/

namespace TrustGate.Certificate

open Der

inductive KeyKind where
  | rsa | ec | ed25519 | ed448 | dsa
  /-- Keys for agreement only, which do not authenticate anybody. -/
  | agreement
  deriving DecidableEq, Repr

/-- The name of an authentication method that no key tells. -/
def unknownAuthType : String := "UNKNOWN"

def KeyKind.authType : KeyKind → String
  | .rsa => "RSA"
  | .ec => "EC"
  | .ed25519 => "Ed25519"
  | .ed448 => "Ed448"
  | .dsa => "DSA"
  | .agreement => unknownAuthType

/-- A curve `y² = x³ + a·x + b` over the integers modulo `p`. -/
structure Curve where
  p : Nat
  a : Nat
  b : Nat
  deriving DecidableEq, Repr

def secp192r1 : Curve where
  p := 0xfffffffffffffffffffffffffffffffeffffffffffffffff
  a := 0xfffffffffffffffffffffffffffffffefffffffffffffffc
  b := 0x64210519e59c80e70fa7e9ab72243049feb8deecc146b9b1

def secp224r1 : Curve where
  p := 0xffffffffffffffffffffffffffffffff000000000000000000000001
  a := 0xfffffffffffffffffffffffffffffffefffffffffffffffffffffffe
  b := 0xb4050a850c04b3abf54132565044b0b7d7bfd8ba270b39432355ffb4

def secp256r1 : Curve where
  p := 0xffffffff00000001000000000000000000000000ffffffffffffffffffffffff
  a := 0xffffffff00000001000000000000000000000000fffffffffffffffffffffffc
  b := 0x5ac635d8aa3a93e7b3ebbd55769886bc651d06b0cc53b0f63bce3c3e27d2604b

def secp384r1 : Curve where
  p := Nat.pow 2 384 - Nat.pow 2 128 - Nat.pow 2 96 + Nat.pow 2 32 - 1
  a := Nat.pow 2 384 - Nat.pow 2 128 - Nat.pow 2 96 + Nat.pow 2 32 - 4
  b := 0xb3312fa7e23ee7e4988e056be3f82d19181d9c6efe814112 * Nat.pow 2 192 +
    0x0314088f5013875ac656398d8a2ed19d2a85c8edd3ec2aef

def secp521r1 : Curve where
  p := Nat.pow 2 521 - 1
  a := Nat.pow 2 521 - 4
  b := 0x51953eb9618e1c9a1f929a21a0b68540eea2da725b99b315f3b8b489918ef109e1 * Nat.pow 2 256 +
    0x56193951ec7e937b1652c0bd3bb1bf073573df883d2c34f1ef451fd46b503f00

def secp256k1 : Curve where
  p := 0xfffffffffffffffffffffffffffffffffffffffffffffffffffffffefffffc2f
  a := 0
  b := 7

/-- The curves whose equation is checked. -/
def checkedCurves : List (Oid × Curve) :=
  [([1, 2, 840, 10045, 3, 1, 1], secp192r1), ([1, 3, 132, 0, 33], secp224r1),
    ([1, 2, 840, 10045, 3, 1, 7], secp256r1), ([1, 3, 132, 0, 34], secp384r1),
    ([1, 3, 132, 0, 35], secp521r1), ([1, 3, 132, 0, 10], secp256k1)]

/-- Further curves that keys may lie on. -/
def otherCurves : List Oid :=
  ([1, 2, 3, 15, 16, 17, 26, 27, 36, 37, 38, 39].map fun n => [1, 3, 132, 0, n]) ++
    ([7, 11, 13].map fun n => [1, 3, 36, 3, 3, 2, 8, 1, 1, n])

def powMod (p : Nat) (base : Nat) : (fuel exponent : Nat) → Nat
  | 0, _ => 1 % p
  | fuel + 1, exponent =>
    if exponent = 0 then 1 % p
    else
      let half := powMod p (base * base % p) fuel (exponent / 2)
      if exponent % 2 = 1 then half * base % p else half

def numberOf (bs : Octets) : Nat := bs.foldl (fun n b => n * 256 + b.toNat) 0

/-- The octets of a coordinate. -/
def Curve.width (c : Curve) : Nat := (Decimal.bitLength c.p + 7) / 8

/-- The right side of the equation. -/
def Curve.cubic (c : Curve) (x : Nat) : Nat := (x * x % c.p * x + c.a * x + c.b) % c.p

/-- The octets of the point that lies on every curve. -/
def pointAtInfinity : Octets := [0]

/-- Whether octets are a point of the curve: both coordinates, or one of them with the sign of the
other. -/
def Curve.hasPoint (c : Curve) : Octets → Bool
  | form :: rest =>
    let x := numberOf (rest.take c.width)
    let y := numberOf (rest.drop c.width)
    let onCurve := decide (x < c.p) && decide (y < c.p) && y * y % c.p == c.cubic x
    if form = 4 then rest.length == 2 * c.width && onCurve
    else if form = 6 ∨ form = 7 then
      rest.length == 2 * c.width && onCurve && y % 2 == form.toNat % 2
    else if form = 2 ∨ form = 3 then
      let z := c.cubic x
      rest.length == c.width && decide (x < c.p) &&
        (z == 0 || powMod c.p z (Decimal.bitLength c.p) ((c.p - 1) / 2) == 1)
    else false
  | [] => false

def curveOid? (parameters : Option Element) : Option Oid :=
  match parameters with
  | some e => (e.expect tagOid).bind oid?
  | none => none

def ecKind (parameters : Option Element) (key : Octets) : Except Failure KeyKind :=
  match curveOid? parameters with
  | none => faulty .explicitCurve
  | some oid =>
    match checkedCurves.lookup oid, otherCurves.contains oid with
    | none, false => faulty (.unknownCurve (oidText oid))
    | curve, _ =>
      if key = pointAtInfinity then faulty .pointAtInfinity
      else if curve.all (·.hasPoint key) then .ok .ec
      else faulty .badKey

/-- A nonnegative number. -/
def isNatural (e : Element) : Bool :=
  match (e.expect tagInteger).bind integer? with
  | some i => decide (0 ≤ i)
  | none => false

/-- Modulus and exponent. -/
def isRsaKey (key : Octets) : Bool :=
  match (single? key).bind (·.inside tagSequence) with
  | some [n, e] => isNatural n && isNatural e
  | _ => false

def isDsaKey (key : Octets) : Bool := ((single? key).map isNatural).getD false

def sized (kind : KeyKind) (width : Nat) (key : Octets) : Except Failure KeyKind :=
  if key.length = width then .ok kind else faulty .badKey

/-- The kind of a certificate's key. -/
def keyKind (c : Certificate) : Except Failure KeyKind :=
  let oid := c.keyAlgorithm.oid
  if oid = rsaKey ∨ oid = rsaPss then
    if isRsaKey c.key then .ok .rsa else faulty .malformed
  else if oid = ecKey then ecKind c.keyAlgorithm.parameters c.key
  else if oid = ed25519 then sized .ed25519 32 c.key
  else if oid = ed448 then sized .ed448 57 c.key
  else if oid = x25519 then sized .agreement 32 c.key
  else if oid = x448 then sized .agreement 56 c.key
  else if oid = dsaKey then if isDsaKey c.key then .ok .dsa else faulty .malformed
  else faulty (.unknownKeyType (oidText oid))

/-- How the holder of a certificate authenticates. -/
def authType (c : Certificate) : Except Failure String := (keyKind c).map (·.authType)

end TrustGate.Certificate
