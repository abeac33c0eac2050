import TrustGate.Certificate.Name
import TrustGate.Net.Subject

/-!
# Certificates

A certificate is read once: version, serial number, names, validity and the raw
key and extensions.  Key, names and extensions are looked into when they are asked
for.  Two certificates are the same if their octets are.
-/

namespace TrustGate.Certificate

open Der

/-- An algorithm: its identifier and what follows it. -/
structure Algorithm where
  oid : Oid
  parameters : Option Element
  deriving DecidableEq, Repr

structure Extension where
  oid : Oid
  critical : Bool
  value : Octets
  deriving DecidableEq, Repr

end TrustGate.Certificate

namespace TrustGate

structure Certificate where
  octets : Octets
  serial : Int
  issuer : Certificate.Name
  subject : Certificate.Name
  notBefore : Time.DateTime
  notAfter : Time.DateTime
  keyAlgorithm : Certificate.Algorithm
  key : Octets
  extensions : List Certificate.Extension
  deriving Repr

/-- Certificates are the same if their octets are. -/
def Certificate.same (a b : Certificate) : Bool := a.octets == b.octets

end TrustGate

namespace TrustGate.Certificate

open Der

/-! ## Algorithms -/

def rsaKey : Oid := [1, 2, 840, 113549, 1, 1, 1]
def rsaPss : Oid := [1, 2, 840, 113549, 1, 1, 10]
def ecKey : Oid := [1, 2, 840, 10045, 2, 1]
def dsaKey : Oid := [1, 2, 840, 10040, 4, 1]
def x25519 : Oid := [1, 3, 101, 110]
def x448 : Oid := [1, 3, 101, 111]
def ed25519 : Oid := [1, 3, 101, 112]
def ed448 : Oid := [1, 3, 101, 113]

/-- Algorithms whose parameters are null or missing. -/
def nullParameters : List Oid :=
  [rsaKey] ++
  ([2, 4, 5, 11, 12, 13, 14].map fun n => [1, 2, 840, 113549, 1, 1, n]) ++
  [[1, 3, 14, 3, 2, 29], [1, 3, 14, 3, 2, 26]] ++
  ([1, 2, 3, 4].map fun n => [1, 2, 840, 10045, 4, 3, n]) ++
  ([1, 2, 3, 4, 7, 8, 9, 10].map fun n => [2, 16, 840, 1, 101, 3, 4, 2, n]) ++
  ([1, 2, 3, 4, 9, 10, 11, 12, 13, 14, 15, 16].map fun n => [2, 16, 840, 1, 101, 3, 4, 3, n]) ++
  [[1, 2, 840, 10040, 4, 3]]

/-- Algorithms without parameters. -/
def noParameters : List Oid := [x25519, x448, ed25519, ed448]

/-- The three numbers of a group. -/
def isNumberTriple (e : Element) : Bool :=
  match e.inside tagSequence with
  | some [p, q, g] => [p, q, g].all fun n =>
      match (n.expect tagInteger).bind integer? with
      | some i => decide (0 ≤ i)
      | none => false
  | _ => false

/-- Whether the parameters fit the algorithm. -/
def parametersFit (oid : Oid) (parameters : Option Element) : Bool :=
  if nullParameters.contains oid then
    match parameters with
    | none => true
    | some e => ((e.expect tagNull).bind null?).isSome
  else if noParameters.contains oid then parameters.isNone
  else if oid = ecKey then
    match parameters with
    | some e => ((e.expect tagOid).bind oid?).isSome || ((e.expect tagNull).bind null?).isSome ||
        (e.inside tagSequence).isSome
    | none => false
  else if oid = dsaKey then
    match parameters with
    | some e => isNumberTriple e
    | none => false
  else true

def algorithm? (e : Element) : Option Algorithm := do
  let (head, rest) ← match ← e.inside tagSequence with
    | head :: rest => some (head, rest)
    | [] => none
  let oid ← (head.expect tagOid).bind oid?
  let parameters ← match rest with
    | [] => some none
    | [p] => some (some p)
    | _ => none
  if parametersFit oid parameters then return ⟨oid, parameters⟩ else none

/-! ## Fields -/

def extension? (e : Element) : Option Extension := do
  let es ← e.inside tagSequence
  let (head, rest) ← match es with
    | head :: rest => some (head, rest)
    | [] => none
  let oid ← (head.expect tagOid).bind oid?
  let (flag, rest) := takeTagged tagBoolean rest
  let critical ← match flag with
    | none => some false
    -- The default is not written out.
    | some f => if boolean? f.content = some true then some true else none
  match rest with
  | [value] => return ⟨oid, critical, ← value.expect tagOctetString⟩
  | _ => none

def validity? (e : Element) : Option (Time.DateTime × Time.DateTime) := do
  let [notBefore, notAfter] ← e.inside tagSequence | none
  return (← time? notBefore, ← time? notAfter)

def keyInfo? (e : Element) : Option (Algorithm × Octets) := do
  let [alg, key] ← e.inside tagSequence | none
  return (← algorithm? alg, ← (key.expect tagBitString).bind bitString?)

/-- The one element inside an explicit field. -/
def explicit? (e : Element) : Option Element := single? e.content

/-- A small number in one octet. -/
def smallNumber? (e : Element) : Option Nat := do
  let i ← (e.expect tagInteger).bind integer?
  if 0 ≤ i ∧ i ≤ 255 then return i.toNat else none

/-- The version field: its default 0 is not written out. -/
def version? (e : Option Element) : Option Nat :=
  match e with
  | none => some 0
  | some e => do
    let n ← (explicit? e).bind smallNumber?
    if n = 0 then none else return n

def optionalBits (e : Option Element) : Option Unit :=
  match e with
  | none => some ()
  | some e => (bitString? e.content).map fun _ => ()

def extensions? (e : Option Element) : Option (List Extension) :=
  match e with
  | none => some []
  | some e => do
    let inner ← explicit? e
    (← inner.inside tagSequence).mapM extension?

/-- The signed part: the certificate and its version number. -/
def signedPart? (octets : Octets) (e : Element) : Option (Nat × Certificate) := do
  let (versionField, rest) := takeTagged (contextTag 0 true) (← e.inside tagSequence)
  let version ← version? versionField
  match rest with
  | serial :: algorithm :: issuer :: validity :: subject :: key :: rest =>
    let serial ← (serial.expect tagInteger).bind integer?
    let _ ← algorithm? algorithm
    let issuer ← name? issuer
    let (notBefore, notAfter) ← validity? validity
    let subject ← name? subject
    let (keyAlgorithm, key) ← keyInfo? key
    let (issuerId, rest) := takeTagged (contextTag 1 false) rest
    let _ ← optionalBits issuerId
    let (subjectId, rest) := takeTagged (contextTag 2 false) rest
    let _ ← optionalBits subjectId
    let (extensionField, rest) := takeTagged (contextTag 3 true) rest
    let extensions ← extensions? extensionField
    if rest.isEmpty then
      return (version, ⟨octets, serial, issuer, subject, notBefore, notAfter, keyAlgorithm, key,
        extensions⟩)
    else none
  | _ => none

def signed? (octets : Octets) : Option (Nat × Certificate) := do
  let whole ← single? octets
  let [body, algorithm, signature] ← whole.inside tagSequence | none
  let result ← signedPart? octets body
  let _ ← algorithm? algorithm
  let _ ← (signature.expect tagBitString).bind bitString?
  return result

/-- Reads a certificate; only versions 1 and 3 are accepted. -/
def ofOctets (octets : Octets) : Except Failure Certificate := do
  let (version, certificate) ← wellFormed (signed? octets)
  if version = 0 ∨ version = 2 then return certificate else faulty (.badVersion version)

/-! ## What a certificate says of itself -/

/-- A time of the calendar, which starts with year 1. -/
def inCalendar (t : Time.DateTime) : Except Failure Time.DateTime :=
  if t.date.year = 0 then faulty (.yearOutOfRange 0) else return t

def timeText (t : Time.DateTime) : Except Failure String := (inCalendar t).map (·.text 'T')

/-- A whole number in upper-case hexadecimal. -/
def hexInt (i : Int) : String :=
  let ds := (Nat.toDigits 16 i.natAbs).map Char.toUpper
  String.ofList (if i < 0 then '-' :: ds else ds)

/-- Names, serial number and validity of a certificate, as texts in a fixed order. -/
structure Description where
  subject : String
  issuer : String
  serial : String
  notBefore : String
  notAfter : String
  deriving DecidableEq, Repr

def describe (c : Certificate) : Except Failure Description := do
  let subject ← c.subject.text
  let issuer ← c.issuer.text
  let notBefore ← timeText c.notBefore
  let notAfter ← timeText c.notAfter
  return ⟨subject, issuer, hexInt c.serial, notBefore, notAfter⟩

/-- The parts of a description by their names. -/
def Description.fields (d : Description) : List (String × String) :=
  [("subject", d.subject), ("issuer", d.issuer), ("serial", d.serial),
    ("not_before", d.notBefore), ("not_after", d.notAfter)]

end TrustGate.Certificate
