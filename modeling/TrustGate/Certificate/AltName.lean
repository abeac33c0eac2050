import TrustGate.Certificate.Basic

/-!
# Alternative names

The DNS names and IP addresses that a certificate is issued for.  All extensions
are read together, so a broken or repeated one hides the names.
-/

namespace TrustGate.Certificate

open Der

/-- A name of any form; forms other than DNS names and addresses are only checked. -/
inductive GeneralName where
  | subject (s : Net.Subject)
  | otherForm
  deriving DecidableEq, Repr

/-- The length of a mask of leading ones. -/
def maskLength? (bits mask : Nat) : Option Nat :=
  (List.range (bits + 1)).find? fun n => mask == Nat.pow 2 bits - Nat.pow 2 (bits - n)

def octetsNumber (bs : Octets) : Nat := bs.foldl (fun n b => n * 256 + b.toNat) 0

def ipOfNumber (bits n : Nat) : Net.IpAddress := if bits = 32 then .v4 n else .v6 n none

/-- A network: an address without host bits, and a mask. -/
def network (bits : Nat) (bs : Octets) : Except Failure GeneralName :=
  let n := octetsNumber (bs.take (bits / 8))
  let mask := octetsNumber (bs.drop (bits / 8))
  match maskLength? bits mask with
  | none => faulty .badMask
  | some length =>
    let ip := ipOfNumber bits n
    if n % Nat.pow 2 (bits - length) = 0 then .ok (.subject (.network ip length))
    else faulty (.badNetwork (ip.text ++ "/" ++ toString length))

/-- An address of four or sixteen octets, or a network of twice as many. -/
def addressName (bs : Octets) : Except Failure GeneralName :=
  if bs.length = 4 then .ok (.subject (.address (.v4 (octetsNumber bs))))
  else if bs.length = 16 then .ok (.subject (.address (.v6 (octetsNumber bs) none)))
  else if bs.length = 8 then network 32 bs
  else if bs.length = 32 then network 128 bs
  else faulty (.badNetworkSize bs.length)

/-- A form of names as it stands in a list. -/
inductive NameForm where
  | dns (name : String)
  | address (bs : Octets)
  | directory (name : Name)
  | unsupported
  | other
  deriving DecidableEq, Repr

/-- An identifier and a value in a field of its own. -/
def isOtherName (bs : Octets) : Bool :=
  match elements? bs with
  | some [type, value] =>
    ((type.expect tagOid).bind oid?).isSome && value.tag == contextTag 0 true &&
      (explicit? value).isSome
  | _ => false

/-- Reads one name of a list. -/
def nameForm? (e : Element) : Option NameForm :=
  if e.tag = contextTag 0 true then if isOtherName e.content then some .other else none
  else if e.tag = contextTag 1 false ∨ e.tag = contextTag 6 false then
    (Encoding.decodeUtf8? e.content).map fun _ => .other
  else if e.tag = contextTag 2 false then (Encoding.decodeUtf8? e.content).map .dns
  else if e.tag = contextTag 3 true ∨ e.tag = contextTag 5 true then
    (elements? e.content).map fun _ => .unsupported
  else if e.tag = contextTag 4 true then ((explicit? e).bind name?).map .directory
  else if e.tag = contextTag 7 false then some (.address e.content)
  else if e.tag = contextTag 8 false then (oid? e.content).map fun _ => .other
  else none

def NameForm.read : NameForm → Except Failure GeneralName
  | .dns name => .ok (.subject (.dns name))
  | .address bs => addressName bs
  | .directory name => (Name.text name).map fun _ => .otherForm
  | .unsupported => faulty .unsupportedNameForm
  | .other => .ok .otherForm

/-- All names of an extension. -/
def generalNames (bs : Octets) : Except Failure (List GeneralName) := do
  let forms ← wellFormed do (← (← single? bs).inside tagSequence).mapM nameForm?
  forms.mapM NameForm.read

/-! ## Extensions -/

def subjectAltName : Oid := [2, 5, 29, 17]
def issuerAltName : Oid := [2, 5, 29, 18]
def basicConstraints : Oid := [2, 5, 29, 19]
def keyUsage : Oid := [2, 5, 29, 15]
def subjectKeyId : Oid := [2, 5, 29, 14]
def extendedKeyUsage : Oid := [2, 5, 29, 37]

/-- A whole number of at most sixty-four bits. -/
def count? (e : Element) : Option Nat :=
  match (e.expect tagInteger).bind integer? with
  | some i => if 0 ≤ i ∧ i < Nat.pow 2 64 then some i.toNat else none
  | none => none

/-- Whether the holder is an authority, and how long a path it may start. -/
def basicConstraints? (bs : Octets) : Option (Bool × Option Nat) := do
  let es ← (← single? bs).inside tagSequence
  let (flag, rest) := takeTagged tagBoolean es
  let authority ← match flag with
    | none => some false
    -- The default is not written out.
    | some f => if boolean? f.content = some true then some true else none
  match rest with
  | [] => return (authority, none)
  | [n] => return (authority, some (← count? n))
  | _ => none

/-- Only an authority may start a path. -/
def checkBasicConstraints (bs : Octets) : Except Failure Unit := do
  match ← wellFormed (basicConstraints? bs) with
  | (false, some _) => faulty .pathWithoutAuthority
  | _ => return ()

/-- Whether a bit is set; bits are counted from the most significant one of the first octet. -/
def hasBit (bs : Octets) (i : Nat) : Bool :=
  match bs[i / 8]? with
  | some b => b.toNat / Nat.pow 2 (7 - i % 8) % 2 == 1
  | none => false

/-- Keys that encipher only or decipher only (bits 7 and 8) are keys for agreement (bit 4). -/
def checkKeyUsage (bs : Octets) : Except Failure Unit := do
  let bits ← wellFormed do bitString? (← (← single? bs).expect tagBitString)
  if !hasBit bits 4 && (hasBit bits 7 || hasBit bits 8) then faulty .oneWayWithoutAgreement

def isOidList (bs : Octets) : Bool :=
  match (single? bs).bind (·.inside tagSequence) with
  | some es => es.all fun e => ((e.expect tagOid).bind oid?).isSome
  | none => false

/-- Whether an extension of a known type is well formed; others are not looked into. -/
def checkExtension (e : Extension) : Except Failure Unit :=
  let require (ok : Bool) : Except Failure Unit := if ok then .ok () else faulty .malformed
  if e.oid = subjectAltName ∨ e.oid = issuerAltName then (generalNames e.value).map fun _ => ()
  else if e.oid = basicConstraints then checkBasicConstraints e.value
  else if e.oid = keyUsage then checkKeyUsage e.value
  else if e.oid = subjectKeyId then
    require (((single? e.value).bind (·.expect tagOctetString)).isSome)
  else if e.oid = extendedKeyUsage then require (isOidList e.value)
  else .ok ()

/-- The first extension type that occurs a second time. -/
def repeated? : List Oid → List Extension → Option Oid
  | _, [] => none
  | seen, e :: es => if seen.contains e.oid then some e.oid else repeated? (e.oid :: seen) es

/-- The DNS names and addresses of a certificate, in order; none if it has no such extension. -/
def leafNames (c : Certificate) : Except Failure (List Net.Subject) := do
  if let some oid := repeated? [] c.extensions then faulty (.duplicateExtension (oidText oid))
  c.extensions.forM checkExtension
  match c.extensions.find? (·.oid = subjectAltName) with
  | none => return []
  | some e =>
    let names ← generalNames e.value
    return names.filterMap fun
      | .subject s => some s
      | .otherForm => none

end TrustGate.Certificate
