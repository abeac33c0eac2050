import TrustGate.Connection.Request
import TrustGate.Tls.Session
import TrustGate.Decimal.Rounded

/-!
# Connecting

A connection within a deadline resolves the host and tries its addresses in order.
All of them share the deadline: an attempt gets the time that is left, and a failed
one is closed before the next begins.  Without a deadline the platform tries the
addresses itself.

    connectWithinDeadline r    addresses in order, one deadline for all
    openSocket r               the connected socket, or a failure that names its cause
    connect c r handshake      the session over such a socket

Every attempt is counted once: connected, timed out, unresolved or failed.
-/

namespace TrustGate.Connection

inductive ConnectFault where
  | unresolved (host failure : String)
  | timedOut (host port : String) (limit : Option String)
  /-- The time limit of an operation ran out. -/
  | expired
  deriving DecidableEq, Repr

instance : Cause ConnectFault where
  kind
    | .unresolved _ _ => .unresolvedHost
    | .timedOut _ _ _ => .connectTimeout
    | .expired => .timeout
  message
    | .unresolved host failure => "Cannot resolve host " ++ host ++ ": " ++ failure
    | .timedOut host port limit => "Connect to " ++ host ++ ":" ++ port ++ " timed out" ++
        ((limit.map fun l => " after " ++ l ++ "s").getD "")
    | .expired => "timed out"

def logger : String := "sslfactory.connector"

variable {π τ : Type} [Platform π τ]

/-- Sets the time limit of a socket. -/
def setTimeout (socket : SocketId) (limit : TimeLimit τ) : Action π τ Unit := do
  Action.ofExcept (← ask (.setTimeout socket limit))

def closeSocket (socket : SocketId) : Action π τ Unit := ask (.closeSocket socket)

/-- Connects a new socket to an address within the time that remains. -/
def prepare (r : Request) (e : Endpoint) (socket : SocketId) (remaining : τ) :
    Action π τ Unit := do
  setTimeout socket (.remaining remaining)
  match r.sourceAddress? with
  | some source => Action.ofExcept (← ask (.bind socket source))
  | none => pure ()
  Action.ofExcept (← ask (.connect socket e.address))

/-- Tries one address.  A failure of the operating system is a result, and the socket is closed; any
other failure ends the whole attempt to connect. -/
def tryEndpoint (r : Request) (e : Endpoint) (remaining : τ) :
    Action π τ (Except Failure SocketId) := do
  let socket ← freshSocket
  match ← ask (.openSocket socket e.family e.protocol) with
  | .error f => if f.kind.isOs then return .error f else throw f
  | .ok () =>
    takeSocket socket
    let attempt : Action π τ (Except Failure SocketId) := do
      prepare r e socket remaining
      return .ok socket
    tryCatch attempt fun f => do
      if f.kind.isOs then
        closeSocket socket
        return .error f
      else throw f

variable [Duration τ]

/-- Tries addresses in order while there is time.  The result is the connected socket, or the last
failure if there was one. -/
def tryEach (r : Request) (deadline : τ) (last : Option Failure) :
    List Endpoint → Action π τ (Except (Option Failure) SocketId)
  | [] => return .error last
  | e :: rest => do
    let now ← ask .monotonicClock
    let remaining : τ := Duration.sub deadline now
    if Duration.le remaining Duration.zero then return .error last
    match ← tryEndpoint r e remaining with
    | .ok socket => do
      setTimeout socket (.given .null)
      return .ok socket
    | .error f => tryEach r deadline (some f) rest

/-- The failure of an attempt that connected to no address: out of time if nothing was tried, if the
last failure was a time limit, or if the deadline has passed; else the last failure itself. -/
def giveUp (deadline : τ) (last : Option Failure) : Action π τ SocketId := do
  match last with
  | none => Action.refuse ConnectFault.expired
  | some f =>
    if f.kind.isTimeout then throw ((Failure.of ConnectFault.expired).because f)
    else
      let now ← ask .monotonicClock
      if Duration.le deadline now then throw ((Failure.of ConnectFault.expired).because f)
      else throw f

/-- Connects to the first address that accepts, all sharing one deadline. -/
def connectWithinDeadline (r : Request) : Action π τ SocketId := do
  let start : τ ← ask .monotonicClock
  let limit : τ ← Action.ofExcept (Duration.ofValue r.connectTimeout)
  let deadline := Duration.add start limit
  let endpoints ← Action.ofExcept (← ask (.resolve r.host r.port))
  match ← tryEach r deadline none endpoints with
  | .ok socket => return socket
  | .error last => giveUp deadline last

/-- Connects without a deadline. -/
def connectDirectly (r : Request) : Action π τ SocketId := do
  let socket ← freshSocket
  Action.ofExcept (← ask (.openDirect socket r.address r.sourceAddress?))
  takeSocket socket
  return socket

/-- Whether a request has a deadline. -/
def Request.hasDeadline (r : Request) : Bool := r.connectTimeout.isGiven

/-- The text of the time limit of a request, to the millisecond. -/
def Request.limitText (r : Request) : Option String :=
  if r.hasDeadline then r.connectTimeout.toFloat?.map (Decimal.fixed 3) else none

/-- Counts a failure to connect and names its cause. -/
def explainFailure (r : Request) (f : Failure) : Action π τ SocketId := do
  if f.kind = .addressInfo then
    countOutcome .unresolved
    throw ((Failure.of (ConnectFault.unresolved r.host.quoted f.message)).because f)
  else if f.kind.isTimeout then
    countOutcome .timeout
    throw ((Failure.of (ConnectFault.timedOut r.host.shown r.port.shown r.limitText)).because f)
  else
    if f.kind.isOs then countOutcome .error
    throw f

/-- The connected socket of a request. -/
def openSocket (r : Request) : Action π τ SocketId :=
  tryCatch (if r.hasDeadline then connectWithinDeadline r else connectDirectly r)
    (explainFailure r)

/-- The name that a peer goes by in a session. -/
def peerName (host : Value) : Option String :=
  match host with
  | .null => none
  | v => some v.shown

/-- Opens a session for a request. -/
def connect (c : Tls.Context) (r : Request) (handshake : Bool) : Action π τ SocketId := do
  let socket ← openSocket r
  let session ← Action.onFailure
    (do
      setTimeout socket (.given r.soTimeout)
      c.wrap socket (peerName r.host) handshake)
    (do
      countOutcome .error
      closeSocket socket)
  countOutcome .connected
  let version ← Tls.Session.version session
  let shown := (nonempty? version).getD "handshake pending"
  debugLog logger "Connected to %s:%d (%s)" [r.host, r.port, .text shown]
  return session

end TrustGate.Connection
