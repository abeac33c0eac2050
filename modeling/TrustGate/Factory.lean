import TrustGate.Config.Load
import TrustGate.Connection.Upgrade

/-!
# Socket factories

A factory builds its context once and hands out sessions.

    Factory.make          from identity and trust providers
    Factory.ofTruststore  trusting exactly the anchors of a truststore
    Factory.ofConfig      as a configuration says
    createSocket          connects
    createTimedSocket     connects within given timeouts
    upgradeSocket         layers TLS over a plain connection
-/

namespace TrustGate

open Trust (Provider Observer)

structure Factory where
  context : Tls.Context

/-- A truststore that cannot be loaded. -/
structure UnloadableTruststore where
  failure : String

instance : Cause UnloadableTruststore where
  kind _ := .initialization
  message u := "Cannot load truststore: " ++ u.failure

namespace Factory

def logger : String := "sslfactory.factory"

def quoted (f : Factory) : String := "AuthSSLSocketFactory(" ++ f.context.quoted ++ ")"

variable {π τ : Type} [Platform π τ]

/-- A factory for the given providers. -/
def make (identities trusts : List Provider) (protocol : Value) (checkHostname : Bool)
    (observer : Option Observer) : Action π τ Factory := do
  let context ← Tls.Context.build identities trusts protocol checkHostname observer
  debugLog logger "Socket factory ready: %r" [.other context.quoted]
  return ⟨context⟩

/-- The validator of a truststore; one that cannot be loaded makes no factory. -/
def loadValidator (truststore : Option Provider) (checkHostname : Bool) :
    Action π τ Trust.ChainValidator :=
  tryCatch (Trust.ChainValidator.load truststore checkHostname none) fun f =>
    if f.kind = .configuration then
      throw ((Failure.of (UnloadableTruststore.mk f.message)).because f)
    else throw f

/-- A factory that trusts exactly the anchors of a truststore; engine and validator both check
host names, or neither does. -/
def ofTruststore (truststore : Option Provider) (identities : List Provider) (protocol : Value)
    (checkHostname : Bool) (observer : Option Observer) : Action π τ Factory := do
  let validator ← loadValidator truststore checkHostname
  make identities [.chain validator] protocol checkHostname observer

/-- A factory as a configuration says. -/
def ofConfig (c : Config) (observer : Option Observer) : Action π τ Factory := do
  let files := (← get).files
  let identity ← Action.ofExcept (c.identityMaterial files)
  let identities := (identity.map Provider.identity).toList
  let trust ← Action.ofExcept (c.trustMaterial files)
  let version ← Action.ofExcept c.tlsProtocol
  match trust with
  | some m => ofTruststore (some (.trust m)) identities (.version version) c.checkHostname observer
  | none => make identities [] (.version version) c.checkHostname observer

/-- Connects without a deadline. -/
def createSocket [Duration τ] (f : Factory) (host port localAddress localPort : Value) :
    Action π τ SocketId := do
  let r ← Action.ofExcept (Connection.Request.make host port localAddress localPort
    Connection.defaultConnectTimeout .null)
  Connection.connect f.context r true

/-- Connects within the given timeouts. -/
def createTimedSocket [Duration τ] (f : Factory) (host port localAddress localPort : Value)
    (params : Option Connection.Params) : Action π τ SocketId := do
  let some params := params | Action.refuse Connection.RequestFault.noParams
  let r ← Action.ofExcept
    (Connection.Request.withParams host port localAddress localPort params)
  Connection.connect f.context r true

/-- Layers TLS over a plain connection. -/
def upgradeSocket (f : Factory) (socket : Option SocketId) (host : Option String) (port : Value)
    (autoClose : Bool) : Action π τ SocketId :=
  Connection.upgrade f.context socket host port autoClose true

end Factory

end TrustGate
