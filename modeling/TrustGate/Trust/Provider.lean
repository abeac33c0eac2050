import TrustGate.Certificate.Basic
import TrustGate.Logging.Record

/-!
# Providers of trust and identity

What a connection trusts, and as whom it presents itself, comes from providers.  A
provider may be able to install itself into the TLS engine, to check the chain that a
peer presents, or both:

    trust material       installs anchors
    identity material    installs a certificate and its key
    chain validator      installs the anchors of its truststore and checks chains
    delegate             checks chains through another provider, telling an observer first
    custom object        has the capabilities it declares
    any other object     has none

Observers only listen: what they answer depends on nothing but what they were told.
-/

namespace TrustGate

/-- Trust anchors given as a PEM file, as PEM text, or both. -/
structure TrustMaterial where
  cafile : Option String
  cadata : Option String
  deriving DecidableEq, Repr

/-- A certificate file with the file of its key and the password of the key. -/
structure IdentityMaterial where
  certfile : String
  keyfile : Option String
  password : Value

namespace Trust

/-- What an object has under the name of a capability. -/
inductive Capability where
  | missing
  /-- Something of the given type that cannot be called. -/
  | unusable (typeName : String)
  | usable
  deriving DecidableEq, Repr

/-- An object of a caller's own making; the platform knows by its number what it does. -/
structure Custom where
  number : Nat
  typeName : String
  install : Capability
  check : Capability
  anchors : Capability
  deriving DecidableEq, Repr

/-- Where a chain validator has its anchors from. -/
inductive Truststore where
  | material (m : TrustMaterial)
  | custom (c : Custom)
  deriving DecidableEq, Repr

/-- Accepts chains that lead to one of the anchors. -/
structure ChainValidator where
  truststore : Truststore
  anchors : List Certificate
  checkHostname : Bool
  /-- A clock of its own, by its number. -/
  clock : Option Nat
  deriving Repr

/-- What an observer is told before a validator is consulted. -/
structure TrustEvent where
  chain : List Certificate
  authType : String
  host : Option String
  validator : String
  deriving Repr

inductive Observer where
  /-- Logs every certificate of the chain. -/
  | logging (logger : String) (level : Int)
  /-- Answers by what it was told before and what it is told now; it may fail. -/
  | custom (shown : String) (answer : List TrustEvent → TrustEvent → Option Failure)
  | uncallable (typeName shown : String)

/-- Something of a type, known by its text. -/
structure Thing where
  typeName : String
  shown : String
  deriving DecidableEq, Repr

inductive Provider where
  | trust (m : TrustMaterial)
  | identity (m : IdentityMaterial)
  | chain (v : ChainValidator)
  | delegate (validator : Provider) (observer : Observer)
  | custom (c : Custom)
  | other (t : Thing)

end Trust

namespace TrustMaterial

def optionalText : Option String → String
  | none => Value.null.quoted
  | some s => Text.quoted s

def quoted (m : TrustMaterial) : String :=
  "TrustMaterial(cafile=" ++ optionalText m.cafile ++ ", cadata=" ++ optionalText m.cadata ++ ")"

end TrustMaterial

/-- The password does not show. -/
def IdentityMaterial.quoted (m : IdentityMaterial) : String :=
  "IdentityMaterial(certfile=" ++ Text.quoted m.certfile ++ ", keyfile=" ++
    TrustMaterial.optionalText m.keyfile ++ ")"

namespace Trust

/-- Certificates without those that stood before. -/
def distinct : List Certificate → List Certificate
  | [] => []
  | c :: cs => c :: (distinct cs).filter fun d => !c.same d

def ChainValidator.quoted (v : ChainValidator) : String :=
  "X509ChainValidator(anchors=" ++ toString (distinct v.anchors).length ++ ", check_hostname=" ++
    (Value.bool v.checkHostname).quoted ++ ")"

namespace Observer

/-- The logger of an observer that was given none. -/
def trustLogger : String := "sslfactory.trust"

/-- The observer of a delegate that was given none. -/
def default : Observer := .logging trustLogger Logging.debug

def shown : Observer → String
  | .logging _ _ => "<sslfactory.trust.LoggingTrustObserver object>"
  | .custom shown _ => shown
  | .uncallable _ shown => shown

end Observer

namespace Provider

/-- The text of a provider in messages. -/
def quoted : Provider → String
  | .trust m => m.quoted
  | .identity m => m.quoted
  | .chain v => v.quoted
  | .delegate p _ => "TrustDelegate(" ++ p.quoted ++ ")"
  | .custom c => "<" ++ c.typeName ++ ">"
  | .other t => t.shown

def typeName : Provider → String
  | .trust _ => "TrustMaterial"
  | .identity _ => "IdentityMaterial"
  | .chain _ => "X509ChainValidator"
  | .delegate _ _ => "TrustDelegate"
  | .custom c => c.typeName
  | .other t => t.typeName

/-- Whether a provider can be installed into the engine. -/
def installs : Provider → Bool
  | .trust _ | .identity _ | .chain _ => true
  | .custom c => c.install == .usable
  | .delegate _ _ | .other _ => false

/-- Whether a provider checks chains. -/
def isChainValidator : Provider → Bool
  | .chain _ | .delegate _ _ => true
  | .custom c => c.check == .usable
  | .trust _ | .identity _ | .other _ => false

/-- A plain value in the place of a provider. -/
def ofValue (v : Value) : Provider := .other ⟨v.typeName, v.quoted⟩

end Provider

end Trust

end TrustGate
