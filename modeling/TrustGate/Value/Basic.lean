import TrustGate.Decimal.Layout
import TrustGate.Time.Calendar

/-!
# Values

The values that callers hand in: request fields, protocol choices, log details
and documents.  Numbers of all kinds compare by value, so a truth value counts
as 0 or 1 and a protocol version as its wire number.
-/

namespace TrustGate

/-- Versions of the TLS protocol; the first two mean no single version. -/
inductive TlsVersion where
  | minimumSupported
  | maximumSupported
  | ssl3
  | tls10
  | tls11
  | tls12
  | tls13
  deriving DecidableEq, Repr

def TlsVersion.all : List TlsVersion :=
  [.minimumSupported, .maximumSupported, .ssl3, .tls10, .tls11, .tls12, .tls13]

def TlsVersion.number : TlsVersion → Int
  | .minimumSupported => -2
  | .maximumSupported => -1
  | .ssl3 => 768
  | .tls10 => 769
  | .tls11 => 770
  | .tls12 => 771
  | .tls13 => 772

def TlsVersion.name : TlsVersion → String
  | .minimumSupported => "MINIMUM_SUPPORTED"
  | .maximumSupported => "MAXIMUM_SUPPORTED"
  | .ssl3 => "SSLv3"
  | .tls10 => "TLSv1"
  | .tls11 => "TLSv1_1"
  | .tls12 => "TLSv1_2"
  | .tls13 => "TLSv1_3"

def TlsVersion.ofName? (name : String) : Option TlsVersion :=
  TlsVersion.all.find? (·.name == name)

/-- Octets, the form in which files and certificates are held. -/
abbrev Octets := List UInt8

inductive Value where
  | null
  | bool (b : Bool)
  | int (i : Int)
  | float (x : Float)
  | text (s : String)
  | bytes (bs : Octets)
  | list (xs : List Value)
  | tuple (xs : List Value)
  /-- A mapping in the order its keys were first set. -/
  | dict (entries : List (Value × Value))
  | dateTime (t : Time.DateTime)
  | date (d : Time.Date)
  | clock (c : Time.Clock)
  | version (v : TlsVersion)
  /-- Anything else, known by its text only. -/
  | other (shown : String)
  deriving Inhabited

namespace Value

/-- The name of a value's type, as error texts spell it. -/
def typeName : Value → String
  | .null => "NoneType"
  | .bool _ => "bool"
  | .int _ => "int"
  | .float _ => "float"
  | .text _ => "str"
  | .bytes _ => "bytes"
  | .list _ => "list"
  | .tuple _ => "tuple"
  | .dict _ => "dict"
  | .dateTime _ => "datetime.datetime"
  | .date _ => "datetime.date"
  | .clock _ => "datetime.time"
  | .version _ => "TLSVersion"
  | .other _ => "Opaque"

/-- Whether a value counts as given: not null, false, zero or empty. -/
def isGiven : Value → Bool
  | .null => false
  | .bool b => b
  | .int i => i != 0
  | .float x => !(x == 0.0)
  | .text s => s != ""
  | .bytes bs => !bs.isEmpty
  | .list xs => !xs.isEmpty
  | .tuple xs => !xs.isEmpty
  | .dict es => !es.isEmpty
  | _ => true

/-- The whole number that a value stands for in arithmetic, if it does. -/
def integer? : Value → Option Int
  | .bool b => some (if b then 1 else 0)
  | .int i => some i
  | .version v => some v.number
  | _ => none

/-- Whether a number is below zero, `none` for a value that is no number.  NaN is not below. -/
def isNegative? (v : Value) : Option Bool :=
  match v with
  | .float x => some (x < 0.0)
  | _ => v.integer?.map (decide <| · < 0)

/-- Whether a number is zero or below, `none` for a value that is no number. -/
def isNonpositive? (v : Value) : Option Bool :=
  match v with
  | .float x => some (x ≤ 0.0)
  | _ => v.integer?.map (decide <| · ≤ 0)

/-- A number as a float; `none` for a value that is no number or too large for one. -/
def toFloat? (v : Value) : Option Float :=
  match v with
  | .float x => some x
  | _ =>
    match v.integer? with
    | some i => if Decimal.fitsBinary64 i then some (Decimal.ofInt i) else none
    | none => none

/-- Whether two values are the same key: numbers by value, all else by kind and content. -/
def sameKey (a b : Value) : Bool :=
  match a, b with
  | .null, .null => true
  | .text s, .text t => s == t
  | .bytes s, .bytes t => s == t
  | .float x, .float y => x == y
  | .tuple xs, .tuple ys => sameKeys xs ys
  | .dateTime s, .dateTime t => s == t
  | .date s, .date t => s == t
  | .clock s, .clock t => s == t
  | .float x, b => (b.integer?.map (Decimal.equalsInt x)).getD false
  | a, .float y => (a.integer?.map (Decimal.equalsInt y)).getD false
  | a, b =>
    match a.integer?, b.integer? with
    | some i, some j => i == j
    | _, _ => false
where
  sameKeys : List Value → List Value → Bool
    | [], [] => true
    | x :: xs, y :: ys => sameKey x y && sameKeys xs ys
    | _, _ => false

end Value

/-- Sets a key of an ordered mapping: a key that is there keeps its place. -/
def setEntry {κ α : Type} (same : κ → κ → Bool) (key : κ) (value : α) :
    List (κ × α) → List (κ × α)
  | [] => [(key, value)]
  | (k, v) :: rest =>
    if same k key then (k, value) :: rest else (k, v) :: setEntry same key value rest

/-- An ordered mapping from pairs, later ones replacing earlier ones of the same key. -/
def ofEntries {κ α : Type} (same : κ → κ → Bool) (pairs : List (κ × α)) : List (κ × α) :=
  pairs.foldl (fun entries (key, value) => setEntry same key value entries) []

end TrustGate
