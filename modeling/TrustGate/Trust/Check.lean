import TrustGate.Trust.ChainValidator

/-!
# Putting providers to work

    Provider.check p chain authType host     asks a provider to accept a chain
    Provider.install p engine                gives the engine what a provider holds
    Provider.delegateTo p observer           wraps a chain validator
-/

namespace TrustGate.Trust

/-- An object that checks no chains, in the place of a validator. -/
structure NoValidator where
  quoted : String

instance : Cause NoValidator where
  kind _ := .configuration
  message n := "No usable chain validator to delegate to: " ++ n.quoted

namespace Provider

/-- Wraps a chain validator, with the default observer if none is given. -/
def delegateTo (p : Provider) (observer : Option Observer) : Except Failure Provider :=
  if p.isChainValidator then .ok (.delegate p (observer.getD .default))
  else TrustGate.refuse (NoValidator.mk p.quoted)

variable {π τ : Type} [Platform π τ]

/-- Asks a provider to accept a chain; a delegate tells its observer first. -/
def check (p : Provider) (chain : List Certificate) (authType : String) (host : Option String) :
    Action π τ Unit :=
  match p with
  | .chain v => v.check chain authType host
  | .delegate validator observer => do
    observer.notify ⟨chain, authType, host, validator.typeName⟩
    validator.check chain authType host
  | .custom c => do
    Action.ofExcept (c.check.demand c.typeName "check_server_trusted")
    Action.ofExcept (← ask (.consult ⟨c, chain, authType, host⟩))
  | p => Action.refuse (Logging.NoAttribute.mk p.typeName "check_server_trusted")

/-- Gives the engine what a provider holds. -/
def install (p : Provider) (engine : EngineId) : Action π τ Unit :=
  match p with
  | .trust m => (Truststore.material m).install engine
  | .identity m => do
    Action.ofExcept (← ask (.loadIdentity engine m.certfile m.keyfile m.password))
  | .chain v => v.truststore.install engine
  | .custom c => (Truststore.custom c).install engine
  | p => Action.refuse (Logging.NoAttribute.mk p.typeName "install")

end Provider

end TrustGate.Trust
