import TrustGate.Der.Primitive
import TrustGate.Failure.Basic

/-!
# Distinguished names

A name is a list of relative names, each a set of attributes.  The text of a name
puts the last relative name first; attributes of one set are joined by `+`, well
known types have short names, and special characters of a value are escaped.

Attribute values of most string types are read only when the text is asked for, so
a name with a broken value can be held but not shown.
-/

namespace TrustGate.Certificate

open Der

/-- What can be wrong with a certificate. -/
inductive CertificateFault where
  | malformed
  | badVersion (number : Nat)
  | unknownStringType (tag : Nat)
  | longStringType
  | bitStringType
  | emptyRelativeName
  | duplicateAttributes
  | duplicateExtension (oid : String)
  | unsupportedNameForm
  | badMask
  | badNetwork (shown : String)
  | badNetworkSize (octets : Nat)
  | unknownKeyType (oid : String)
  | unknownCurve (oid : String)
  | explicitCurve
  | badKey
  | pointAtInfinity
  | pathWithoutAuthority
  | oneWayWithoutAgreement
  | yearOutOfRange (year : Int)
  deriving DecidableEq, Repr

instance : Cause CertificateFault where
  kind
    | .badVersion _ => .invalidVersion
    | .unknownStringType _ => .key
    | .bitStringType => .type
    | .duplicateExtension _ => .duplicateExtension
    | .unsupportedNameForm => .named "UnsupportedGeneralNameType" {}
    | .unknownKeyType _ | .unknownCurve _ => .unsupportedAlgorithm
    | _ => .value
  message
    | .malformed => "error parsing asn1 value"
    | .badVersion number => toString number ++ " is not a valid X509 version"
    | .unknownStringType tag => toString tag
    | .longStringType => "Long-form tags are not supported in NameAttribute values"
    | .bitStringType => "oid must be X500_UNIQUE_IDENTIFIER for BitString type."
    | .emptyRelativeName => "a relative distinguished name cannot be empty"
    | .duplicateAttributes => "duplicate attributes are not allowed"
    | .duplicateExtension oid => "Duplicate " ++ oid ++ " extension found"
    | .unsupportedNameForm => "x400Address/EDIPartyName are not supported types"
    | .badMask => "Invalid netmask"
    | .badNetwork shown => shown ++ " has host bits set"
    | .badNetworkSize octets => "Invalid IPNetwork, must be 8 bytes for IPv4 and 32 bytes for " ++
        "IPv6. Found length: " ++ toString octets
    | .unknownKeyType oid => "Unknown key type: " ++ oid
    | .unknownCurve oid => "Curve " ++ oid ++ " is not supported"
    | .explicitCurve => "ECDSA keys with explicit parameters are unsupported at this time"
    | .badKey => "Invalid key"
    | .pointAtInfinity => "Cannot load an EC public key where the point is at infinity"
    | .pathWithoutAuthority => "path_length must be None when ca is False"
    | .oneWayWithoutAgreement => "encipher_only and decipher_only can only be true when " ++
        "key_agreement is true"
    | .yearOutOfRange year => "year " ++ toString year ++ " is out of range"

/-- The failure of a fault; an unknown string type is named by its number. -/
def CertificateFault.failure : CertificateFault → Failure
  | .unknownStringType tag => .mk .key [.int tag] none
  | fault => Failure.of fault

def faulty {α : Type} (fault : CertificateFault) : Except Failure α := .error fault.failure

/-- A read that must succeed. -/
def wellFormed {α : Type} : Option α → Except Failure α
  | some a => .ok a
  | none => faulty .malformed

structure Attribute where
  type : Oid
  value : Element
  deriving DecidableEq, Repr

abbrev Name := List (List Attribute)

/-- String types that are checked when a certificate is loaded. -/
def checkedString? (e : Element) : Option (Option String) :=
  if e.tag = universal 28 then some (universalString? e.content)
  else if e.tag = universal 30 then some (bmpString? e.content)
  else if e.tag = universal 19 then some (printableString? e.content)
  else none

def attribute? (e : Element) : Option Attribute := do
  let [type, value] ← e.inside tagSequence | none
  let oid ← (type.expect tagOid).bind oid?
  match checkedString? value with
  | some none => none
  | _ => return ⟨oid, value⟩

/-- The order of octet strings. -/
def octetsLe : Octets → Octets → Bool
  | [], _ => true
  | _ :: _, [] => false
  | a :: as, b :: bs => if a < b then true else if b < a then false else octetsLe as bs

/-- The members of a set stand in the order of their octets. -/
def isSorted : List Element → Bool
  | a :: b :: rest => octetsLe a.whole b.whole && isSorted (b :: rest)
  | _ => true

def relativeName? (e : Element) : Option (List Attribute) := do
  let members ← e.inside tagSet
  if isSorted members then members.mapM attribute? else none

def name? (e : Element) : Option Name := do
  let parts ← e.inside tagSequence
  parts.mapM relativeName?

/-! ## Text -/

inductive AttributeText where
  | text (s : String)
  | bits (bs : Octets)
  deriving DecidableEq, Repr

/-- The numbers of the string types. -/
def stringTags : List Nat := [3, 4, 12, 18, 19, 20, 22, 23, 24, 26, 28, 30]

/-- The type whose values may be bit strings. -/
def uniqueIdentifier : Oid := [2, 5, 4, 45]

/-- The value of an attribute: text, or bits for the one type that has them. -/
def Attribute.read (a : Attribute) : Except Failure AttributeText :=
  match a.value.tag.octet? with
  | none => faulty .longStringType
  | some tag =>
    if !stringTags.contains tag then faulty (.unknownStringType tag)
    else if tag = 3 then
      if a.type = uniqueIdentifier then .ok (.bits a.value.content) else faulty .bitStringType
    else
      match checkedString? a.value with
      | some s => (wellFormed s).map .text
      | none => (wellFormed (Encoding.decodeUtf8? a.value.content)).map .text

/-- Types that have a short name. -/
def shortNames : List (Oid × String) :=
  [([2, 5, 4, 3], "CN"), ([2, 5, 4, 7], "L"), ([2, 5, 4, 8], "ST"), ([2, 5, 4, 10], "O"),
    ([2, 5, 4, 11], "OU"), ([2, 5, 4, 6], "C"), ([2, 5, 4, 9], "STREET"),
    ([0, 9, 2342, 19200300, 100, 1, 25], "DC"), ([0, 9, 2342, 19200300, 100, 1, 1], "UID")]

def escapeChar (c : Char) : List Char :=
  if c = '\\' ∨ c = '"' ∨ c = '+' ∨ c = ',' ∨ c = ';' ∨ c = '<' ∨ c = '>' then ['\\', c]
  else if c.toNat = 0 then ['\\', '0', '0']
  else [c]

def escapeLast (cs : List Char) : List Char :=
  if cs.getLast? = some ' ' then cs.dropLast ++ ['\\', ' '] else cs

def escapeFirst : List Char → List Char
  | c :: cs => if c = '#' ∨ c = ' ' then '\\' :: c :: cs else c :: cs
  | [] => []

/-- The text of a value: a space at either end and a hash in front are escaped. -/
def escapeValue (s : String) : String :=
  String.ofList (escapeFirst (escapeLast (s.toList.flatMap escapeChar)))

def AttributeText.shown : AttributeText → String
  | .text s => escapeValue s
  | .bits [] => ""
  | .bits bs => "#" ++ String.ofList (bs.flatMap fun b => Text.hex 2 b.toNat)

def attributeText (type : Oid) (value : AttributeText) : String :=
  (shortNames.lookup type).getD (oidText type) ++ "=" ++ value.shown

/-- Whether no two members are equal. -/
def allDistinct {α : Type} [DecidableEq α] : List α → Bool
  | [] => true
  | a :: as => !as.contains a && allDistinct as

def relativeNameText (attributes : List Attribute) : Except Failure String := do
  let values ← attributes.mapM fun a => (a.read).map fun v => (a.type, v)
  if values.isEmpty then faulty .emptyRelativeName
  else if !allDistinct values then faulty .duplicateAttributes
  else return String.intercalate "+" (values.map fun (type, v) => attributeText type v)

/-- The text of a name. -/
def Name.text (name : Name) : Except Failure String := do
  let parts ← List.mapM relativeNameText name
  return String.intercalate "," parts.reverse

end TrustGate.Certificate
