import TrustGate.Trust.Check
import TrustGate.Tls.Protocol

/-!
# TLS contexts

A context is a configured engine with the providers that its connections consult.  It
is built in a fixed order: the providers and the protocol are checked first, then the
engine is made, pinned to one version, told whether to check host names, and given
what the identity providers and then the trust providers hold.  Only if no trust
provider installs anything does the engine load the default trust of the platform.

Chain validators are wrapped in delegates, so that an observer hears of every chain.
-/

namespace TrustGate.Tls

open Trust (Provider Observer)

structure Context where
  engine : EngineId
  protocol : TlsVersion
  checkHostname : Bool
  managers : List Provider

inductive ContextFault where
  | noProviders
  | identityCannotInstall (quoted : String)
  | trustWithoutCapability (quoted : String)
  deriving DecidableEq, Repr

instance : Cause ContextFault where
  kind _ := .configuration
  message
    | .noProviders => "Either identity material or trust material must be given"
    | .identityCannotInstall quoted =>
      "Identity provider " ++ quoted ++ " cannot install key material"
    | .trustWithoutCapability quoted =>
      "Trust provider " ++ quoted ++ " neither installs anchors nor validates chains"

/-- The engine did not keep to the version it was pinned to. -/
structure NotPinned where
  version : TlsVersion

instance : Cause NotPinned where
  kind _ := .value
  message p := "TLS engine cannot pin " ++ p.version.name

/-- What an engine failure means, by the first family it belongs to. -/
inductive SetupFault where
  | keyManagement
  | keyMaterial
  | unsupported
  deriving DecidableEq, Repr

def SetupFault.label : SetupFault → String
  | .keyManagement => "Key management exception: "
  | .keyMaterial => "Cannot read key material: "
  | .unsupported => "Unsupported TLS configuration: "

def SetupFault.ofKind? (kind : FailureKind) : Option SetupFault :=
  if kind.isSsl then some .keyManagement
  else if kind.isOs then some .keyMaterial
  else if kind.isValue then some .unsupported
  else none

namespace Context

def logger : String := "sslfactory.context"

/-- The chain validators among the managers. -/
def validators (c : Context) : List Provider := c.managers.filter (·.isChainValidator)

def quoted (c : Context) : String :=
  "TLSContext(protocol=" ++ c.protocol.name ++ ", trust_managers=" ++
    toString c.managers.length ++ ")"

/-- Checks the providers: every one has to be of some use. -/
def checkProviders (identities trusts : List Provider) : Except Failure Unit := do
  if identities.isEmpty && trusts.isEmpty then TrustGate.refuse ContextFault.noProviders
  match identities.find? (!·.installs) with
  | some p => TrustGate.refuse (ContextFault.identityCannotInstall p.quoted)
  | none =>
    match trusts.find? fun p => !(p.installs || p.isChainValidator) with
    | some p => TrustGate.refuse (ContextFault.trustWithoutCapability p.quoted)
    | none => return ()

/-- Wraps a provider that checks chains; all others stay as they are. -/
def manager (observer : Option Observer) (p : Provider) : Provider :=
  if p.isChainValidator then .delegate p (observer.getD .default) else p

variable {π τ : Type} [Platform π τ]

/-- The managers of a list of trust providers. -/
def createManagers (trusts : List Provider) (observer : Option Observer) :
    Action π τ (List Provider) := do
  debugLog logger "Initializing trust managers" []
  return trusts.map (manager observer)

/-- A new engine. -/
def newEngine : Action π τ EngineId := do
  let engine := (← get).nextEngine
  Action.ofExcept (← ask (.newEngine engine))
  modify fun w => { w with nextEngine := engine + 1 }
  return engine

/-- A new engine that speaks one version only. -/
def pinnedEngine (version : TlsVersion) (checkHostname : Bool) : Action π τ EngineId := do
  let engine ← newEngine
  Action.ofExcept (← ask (.setMinimumVersion engine version))
  Action.ofExcept (← ask (.setMaximumVersion engine version))
  Action.ofExcept (← ask (.setCheckHostname engine checkHostname))
  let (least, greatest) ← ask (.versions engine)
  if least = version ∧ greatest = version then return engine
  else Action.refuse (NotPinned.mk version)

/-- Installs one provider after the other. -/
def installAll (engine : EngineId) : List Provider → Action π τ Unit
  | [] => pure ()
  | p :: ps => do
    p.install engine
    installAll engine ps

/-- Makes the engine and gives it what the providers hold. -/
def setUp (identities trusts : List Provider) (version : TlsVersion) (checkHostname : Bool) :
    Action π τ EngineId := do
  let engine ← pinnedEngine version checkHostname
  installAll engine identities
  let installers := trusts.filter (·.installs)
  installAll engine installers
  if installers.isEmpty then Action.ofExcept (← ask (.loadDefaultTrust engine))
  return engine

/-- Turns an engine failure into one of the library, caused by it. -/
def explainSetup (f : Failure) : Action π τ EngineId :=
  match SetupFault.ofKind? f.kind with
  | some fault => do
    errorLog logger (fault.label ++ "%s") [.text f.message] f
    throw ((Failure.plain .initialization (fault.label ++ f.message)).because f)
  | none => throw f

/-- Builds a context. -/
def build (identities trusts : List Provider) (protocol : Value) (checkHostname : Bool)
    (observer : Option Observer) : Action π τ Context := do
  Action.ofExcept (checkProviders identities trusts)
  let version ← Action.ofExcept (resolveProtocol protocol)
  let managers ← createManagers trusts observer
  let engine ← tryCatch (setUp identities trusts version checkHostname) explainSetup
  debugLog logger "TLS context pinned to %s with %d identity and %d trust provider(s)"
    [.text version.name, .int identities.length, .int trusts.length]
  return ⟨engine, version, checkHostname, managers⟩

end Context

end TrustGate.Tls
