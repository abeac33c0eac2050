import TrustGate.Trust.Material
import TrustGate.Tls.Protocol
import TrustGate.Connection.Request

/-!
# Configurations

A configuration has ten fields, each with a type of its own and a default.  It is
decoded from a mapping field by field, in the order of the mapping; the first field
that is unknown or does not fit is the failure.  Whole numbers become floats.

    Config.decode entries     the configuration of a mapping
    Config.entries c          its ten fields as a mapping
-/

namespace TrustGate

/-- The fields of a configuration. -/
inductive Field where
  | cafile
  | cadata
  | certfile
  | keyfile
  | keyPassword
  | protocol
  | checkHostname
  | connectTimeout
  | soTimeout
  | debugLogging
  deriving DecidableEq, Repr

namespace Field

def all : List Field := [.cafile, .cadata, .certfile, .keyfile, .keyPassword, .protocol,
  .checkHostname, .connectTimeout, .soTimeout, .debugLogging]

def name : Field → String
  | .cafile => "cafile"
  | .cadata => "cadata"
  | .certfile => "certfile"
  | .keyfile => "keyfile"
  | .keyPassword => "key_password"
  | .protocol => "protocol"
  | .checkHostname => "check_hostname"
  | .connectTimeout => "connect_timeout"
  | .soTimeout => "so_timeout"
  | .debugLogging => "debug_logging"

def ofName? (name : String) : Option Field := all.find? (·.name == name)

end Field

structure Config where
  cafile : Option String
  cadata : Option String
  certfile : Option String
  keyfile : Option String
  keyPassword : Option String
  protocol : String
  checkHostname : Bool
  connectTimeout : Value
  soTimeout : Value
  debugLogging : Bool

/-- Why a mapping is no configuration. -/
inductive ConfigFault where
  | keyNotText
  | unknownField (name : String)
  | wrongType (field : Field) (expected got : String)
  | unknownProtocol (field : Field) (quoted : String)
  | outOfRange (field : Field)
  | outOfBounds (field : Field) (bound : String)
  deriving DecidableEq, Repr

/-- Where a field stands. -/
def Field.place (f : Field) : String := " - at `$." ++ f.name ++ "`"

instance : Cause ConfigFault where
  kind _ := .validation
  message
    | .keyNotText => "Expected `str` - at `key` in `$`"
    | .unknownField name => "Object contains unknown field `" ++ name ++ "`"
    | .wrongType f expected got => "Expected `" ++ expected ++ "`, got `" ++ got ++ "`" ++ f.place
    | .unknownProtocol f quoted => "Invalid enum value " ++ quoted ++ f.place
    | .outOfRange f => "Number out of range" ++ f.place
    | .outOfBounds f bound => "Expected `float` " ++ bound ++ f.place

namespace Config

/-- What a configuration is when nothing is given. -/
def default : Config where
  cafile := none
  cadata := none
  certfile := none
  keyfile := none
  keyPassword := none
  protocol := Tls.defaultProtocolName
  checkHostname := true
  connectTimeout := Connection.defaultConnectTimeout
  soTimeout := .null
  debugLogging := false

/-- The word for the type of a value. -/
def typeWord : Value → String
  | .null => "null"
  | .bool _ => "bool"
  | .int _ => "int"
  | .float _ => "float"
  | .text _ => "str"
  | .bytes _ => "bytes"
  | .list _ => "array"
  | .tuple _ => "array"
  | .dict _ => "object"
  | .dateTime _ => "datetime"
  | .date _ => "date"
  | .clock _ => "time"
  | .version _ => "int"
  | v => v.typeName

def wrong {α : Type} (f : Field) (expected : String) (v : Value) : Except ConfigFault α :=
  .error (.wrongType f expected (typeWord v))

/-- A text or null. -/
def readText (f : Field) : Value → Except ConfigFault (Option String)
  | .null => .ok none
  | .text s => .ok (some s)
  | v => wrong f "str | null" v

def readBool (f : Field) : Value → Except ConfigFault Bool
  | .bool b => .ok b
  | v => wrong f "bool" v

/-- The name of a protocol that can be asked for. -/
def readProtocol (f : Field) : Value → Except ConfigFault String
  | .text s =>
    match Tls.protocolOfName? s with
    | some _ => .ok s
    | none => .error (.unknownProtocol f (Text.quoted s))
  | v => wrong f "str" v

/-- A number as a float. -/
def readNumber (f : Field) (expected : String) : Value → Except ConfigFault Float
  | .float x => .ok x
  | .int i => if Decimal.fitsBinary64 i then .ok (Decimal.ofInt i) else .error (.outOfRange f)
  | v => wrong f expected v

/-- A number that is zero or more. -/
def readConnectTimeout (f : Field) (v : Value) : Except ConfigFault Value := do
  let x ← readNumber f "float" v
  if 0.0 ≤ x then return .float x else .error (.outOfBounds f ">= 0.0")

/-- A number above zero, or null. -/
def readSoTimeout (f : Field) (v : Value) : Except ConfigFault Value :=
  match v with
  | .null => .ok .null
  | v => do
    let x ← readNumber f "float | null" v
    if 0.0 < x then return .float x else .error (.outOfBounds f "> 0.0")

/-- Sets a field to a value that fits it. -/
def assign (c : Config) (f : Field) (v : Value) : Except ConfigFault Config :=
  match f with
  | .cafile => (readText f v).map fun s => { c with cafile := s }
  | .cadata => (readText f v).map fun s => { c with cadata := s }
  | .certfile => (readText f v).map fun s => { c with certfile := s }
  | .keyfile => (readText f v).map fun s => { c with keyfile := s }
  | .keyPassword => (readText f v).map fun s => { c with keyPassword := s }
  | .protocol => (readProtocol f v).map fun s => { c with protocol := s }
  | .checkHostname => (readBool f v).map fun b => { c with checkHostname := b }
  | .connectTimeout => (readConnectTimeout f v).map fun t => { c with connectTimeout := t }
  | .soTimeout => (readSoTimeout f v).map fun t => { c with soTimeout := t }
  | .debugLogging => (readBool f v).map fun b => { c with debugLogging := b }

/-- Sets the field that a key names. -/
def assignEntry (c : Config) (entry : Value × Value) : Except ConfigFault Config :=
  match entry.1 with
  | .text name =>
    match Field.ofName? name with
    | some f => c.assign f entry.2
    | none => .error (.unknownField name)
  | _ => .error .keyNotText

/-- The configuration of a mapping. -/
def decode (entries : List (Value × Value)) : Except ConfigFault Config :=
  entries.foldlM assignEntry Config.default

/-- A field that no configuration has. -/
structure UnexpectedField where
  name : String

instance : Cause UnexpectedField where
  kind _ := .type
  message u := "Unexpected keyword argument " ++ Text.quoted u.name

/-- Sets a field as given, where only the type of texts and flags is looked at. -/
def put (c : Config) (f : Field) (v : Value) : Config :=
  match f, v with
  | .connectTimeout, v => { c with connectTimeout := v }
  | .soTimeout, v => { c with soTimeout := v }
  | .protocol, .text s => { c with protocol := s }
  | f, v =>
    match c.assign f v with
    | .ok c => c
    | .error _ => c

/-- The configuration of fields that nobody checks. -/
def ofFields (entries : List (Value × Value)) : Except Failure Config :=
  entries.foldlM (fun c (k, v) =>
    match Field.ofName? k.shown with
    | some f => .ok (c.put f v)
    | none => refuse (UnexpectedField.mk k.shown)) Config.default

/-- The value of a field. -/
def valueOf (c : Config) : Field → Value
  | .cafile => optional c.cafile
  | .cadata => optional c.cadata
  | .certfile => optional c.certfile
  | .keyfile => optional c.keyfile
  | .keyPassword => optional c.keyPassword
  | .protocol => .text c.protocol
  | .checkHostname => .bool c.checkHostname
  | .connectTimeout => c.connectTimeout
  | .soTimeout => c.soTimeout
  | .debugLogging => .bool c.debugLogging
where
  optional (s : Option String) : Value := (s.map Value.text).getD .null

/-- All fields as a mapping. -/
def entries (c : Config) : List (Value × Value) :=
  Field.all.map fun f => (.text f.name, c.valueOf f)

/-! ## What a configuration stands for -/

/-- A name that stands for no protocol. -/
structure UnknownKey where
  key : String

instance : Cause UnknownKey where
  kind _ := .key
  message u := u.key

/-- The version that connections are pinned to. -/
def tlsProtocol (c : Config) : Except Failure TlsVersion :=
  match Tls.protocolOfName? c.protocol with
  | some v => .ok v
  | none => refuse (UnknownKey.mk c.protocol)

/-- The trust material, if any is given. -/
def trustMaterial (files : Files) (c : Config) : Except Failure (Option TrustMaterial) :=
  match nonempty? c.cafile, nonempty? c.cadata with
  | none, none => .ok none
  | _, _ => (TrustMaterial.make files c.cafile c.cadata).map some

/-- The identity material, if any is given; a key needs a certificate. -/
def identityMaterial (files : Files) (c : Config) : Except Failure (Option IdentityMaterial) :=
  match nonempty? c.certfile, nonempty? c.keyfile with
  | none, none => .ok none
  | none, some _ => refuse MaterialFault.keyWithoutCertificate
  | some _, _ =>
    (IdentityMaterial.make files c.certfile c.keyfile (c.valueOf .keyPassword)).map some

/-- The timeouts of connections. -/
def connectionParams (c : Config) : Except Failure Connection.Params :=
  Connection.Params.make c.connectTimeout c.soTimeout

end Config

end TrustGate
