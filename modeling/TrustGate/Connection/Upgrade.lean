import TrustGate.Connection.Connect

/-!
# Upgrading a connected socket

TLS is layered over a plain connection that exists already.  Unless the session is to
close the caller's socket, it runs on a duplicate, and the caller's stays usable.
-/

namespace TrustGate.Connection

variable {π τ : Type} [Platform π τ]

/-- A second descriptor of a socket. -/
def duplicate (socket : SocketId) : Action π τ SocketId := do
  let copy ← freshSocket
  Action.ofExcept (← ask (.duplicate socket copy))
  takeSocket copy
  return copy

/-- What an upgrade is refused for, before anything is done. -/
def checkUpgrade (socket : Option SocketId) (host : Option String) : Action π τ SocketId := do
  let some plain := socket | Action.refuse RequestFault.noSocket
  if !(← ask (.isOpen plain)) then Action.refuse RequestFault.closedSocket
  if (nonempty? host).isNone then Action.refuse RequestFault.emptyHost
  return plain

/-- Starts a session over a connected socket, or over a duplicate of it. -/
def upgrade (c : Tls.Context) (socket : Option SocketId) (host : Option String) (port : Value)
    (autoClose handshake : Bool) : Action π τ SocketId := do
  let plain ← checkUpgrade socket host
  let target ← if autoClose then pure plain else duplicate plain
  let session ← Action.onFailure (c.wrap target host handshake)
    (do
      countOutcome .error
      if !autoClose then closeSocket target)
  countOutcome .connected
  debugLog logger "Upgraded connection to %s:%d (auto_close=%s)"
    [(host.map Value.text).getD .null, port, .bool autoClose]
  return session

end TrustGate.Connection
