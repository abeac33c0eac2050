import TrustGate.Trust.Material
import TrustGate.Trust.Observer
import TrustGate.Certificate.AltName

/-!
# Chain validators

A chain validator holds the anchors of a truststore.  It accepts a chain in two ways:

    the leaf is an anchor      if the leaf is within its validity and, when host names
                               are checked, one of its names covers the host
    the leaf is none           if the chain verifier, bound to the host or to the first
                               name of the leaf, accepts the leaf with the rest of the
                               chain, anchors left out

Whatever it does not accept it rejects with a reason.
-/

namespace TrustGate.Trust

open Net (Subject)

inductive TruststoreFault where
  | noTruststore
  | unreadable (failure : String)
  | empty
  deriving DecidableEq, Repr

instance : Cause TruststoreFault where
  kind _ := .configuration
  message
    | .noTruststore => "A truststore is required"
    | .unreadable failure => "Cannot read trust anchors: " ++ failure
    | .empty => "Truststore holds no certificates"

/-- Why a chain validator rejects a chain. -/
inductive Rejection where
  | emptyChain
  | noHost
  | outsideValidity (target : String)
  | otherName (target : String)
  | noNames (target : String)
  | untrusted (target authType reason : String)
  deriving DecidableEq, Repr

instance : Cause Rejection where
  kind _ := .certificateRejected
  message
    | .emptyChain => "Empty certificate chain"
    | .noHost => "Server host name is required for chain validation"
    | .outsideValidity target =>
      "Trusted certificate for " ++ target ++ " is outside its validity period"
    | .otherName target => "Trusted certificate does not match " ++ target
    | .noNames target => "Certificate for " ++ target ++ " carries no subjectAltName"
    | .untrusted target authType reason => "Certificate chain for " ++ target ++ " (" ++ authType ++
        ") is not trusted: " ++ reason

inductive TimeFault where
  /-- An instant that the calendar of universal time does not have. -/
  | outOfCalendar
  /-- A time without an offset, where it has to be compared with universal times. -/
  | offsetless
  deriving DecidableEq, Repr

instance : Cause TimeFault where
  kind
    | .outOfCalendar => .overflow
    | .offsetless => .type
  message
    | .outOfCalendar => "date value out of range"
    | .offsetless => "can't compare offset-naive and offset-aware datetimes"

variable {π τ : Type} [Platform π τ]

/-- What has to be called for a capability, unless it is missing or cannot be called. -/
def Capability.demand (c : Capability) (typeName name : String) : Except Failure Unit :=
  match c with
  | .usable => .ok ()
  | .missing => TrustGate.refuse (Logging.NoAttribute.mk typeName name)
  | .unusable typeName => TrustGate.refuse (NotCallable.mk typeName)

namespace Truststore

/-- The truststore that an object is, if it is one. -/
def ofProvider : Provider → Except Failure Truststore
  | .trust m => .ok (.material m)
  | .custom c => (c.anchors.demand c.typeName "anchors").map fun _ => .custom c
  | p => TrustGate.refuse (Logging.NoAttribute.mk p.typeName "anchors")

/-- The certificates of a truststore. -/
def read (store : Truststore) : Action π τ (List Certificate) :=
  match store with
  | .material m => do Action.ofExcept (m.anchors (← get).files)
  | .custom c => do Action.ofExcept (← ask (.anchors c))

/-- Gives the engine what the truststore holds. -/
def install (store : Truststore) (engine : EngineId) : Action π τ Unit :=
  match store with
  | .material m => do Action.ofExcept (← ask (.loadTrust engine m.cafile m.cadata))
  | .custom c => do
    Action.ofExcept (c.install.demand c.typeName "install")
    Action.ofExcept (← ask (.install c engine))

end Truststore

namespace ChainValidator

def logger : String := "sslfactory.validation"

/-- Loads the anchors of a truststore, of which there has to be at least one. -/
def load (store : Option Provider) (checkHostname : Bool) (clock : Option Nat) :
    Action π τ ChainValidator := do
  let some object := store | Action.refuse TruststoreFault.noTruststore
  let store ← Action.ofExcept (Truststore.ofProvider object)
  let anchors ← tryCatch store.read fun f =>
    if f.kind.isOs || f.kind.isValue then
      throw ((Failure.of (TruststoreFault.unreadable f.message)).because f)
    else throw f
  if anchors.isEmpty then Action.refuse TruststoreFault.empty
  debugLog logger "Loaded %d trust anchor(s), host name check %s"
    [.int anchors.length, .bool checkHostname]
  return ⟨store, anchors, checkHostname, clock⟩

/-- Whether a certificate is one of the anchors. -/
def isAnchor (v : ChainValidator) (c : Certificate) : Bool := v.anchors.any (·.same c)

/-- The present, by the validator's own clock if it has one. -/
def now (v : ChainValidator) : Action π τ Time.DateTime :=
  match v.clock with
  | some number => ask (.customClock number)
  | none => ask .wallClock

/-- Whether a time is within the validity of a certificate. -/
def isValidAt (leaf : Certificate) (now : Time.DateTime) : Except Failure Bool := do
  let notBefore ← Certificate.inCalendar leaf.notBefore
  if now.offset.isNone then TrustGate.refuse TimeFault.offsetless
  if now.epochMicros < notBefore.epochMicros then return false
  let notAfter ← Certificate.inCalendar leaf.notAfter
  return now.epochMicros ≤ notAfter.epochMicros

/-- A time at which a chain can be verified: it has to be in the calendar of universal time. -/
def inUniversal (t : Time.DateTime) : Except Failure Time.DateTime :=
  match Time.DateTime.ofEpochMicros t.epochMicros with
  | .ok _ => .ok t
  | .error _ => TrustGate.refuse TimeFault.outOfCalendar

/-- Checks a leaf that is an anchor itself. -/
def checkAnchor (v : ChainValidator) (leaf : Certificate) (subject : Option Subject)
    (target : String) : Action π τ Unit := do
  let now ← v.now
  if !(← Action.ofExcept (isValidAt leaf now)) then Action.refuse (Rejection.outsideValidity target)
  match v.checkHostname, subject with
  | true, some s =>
    if !Net.matchesAny (← Action.ofExcept leaf.leafNames) s then
      Action.refuse (Rejection.otherName target)
  | _, _ => pure ()

/-- Has the chain verified by a verifier bound to the subject. -/
def checkIssued (v : ChainValidator) (leaf : Certificate) (rest : List Certificate)
    (subject : Subject) (target authType : String) : Action π τ Unit := do
  let time ← match v.clock with
    | some _ => some <$> do Action.ofExcept (inUniversal (← v.now))
    | none => pure none
  Action.ofExcept subject.bind
  let intermediates := rest.filter fun c => !v.isAnchor c
  match ← ask (.verify ⟨v.anchors, time, subject, leaf, intermediates⟩) with
  | .accepted => pure ()
  | .refused reason =>
    throw ((Failure.of (Rejection.untrusted target authType reason)).because
      (Failure.plain .verification reason))

/-- Checks a chain, leaf first, presented by a host. -/
def check (v : ChainValidator) (chain : List Certificate) (authType : String)
    (host : Option String) : Action π τ Unit := do
  let leaf :: rest := chain | Action.refuse Rejection.emptyChain
  let subject ← match v.checkHostname, nonempty? host with
    | true, none => Action.refuse Rejection.noHost
    | true, some h => some <$> Action.ofExcept (Subject.ofHost h)
    | false, _ => List.head? <$> Action.ofExcept leaf.leafNames
  let target := (nonempty? host).getD "peer"
  if v.isAnchor leaf then v.checkAnchor leaf subject target
  else
    match subject with
    | none => Action.refuse (Rejection.noNames target)
    | some s => v.checkIssued leaf rest s target authType

end ChainValidator

end TrustGate.Trust
