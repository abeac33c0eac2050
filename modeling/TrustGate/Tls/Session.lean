import TrustGate.Tls.Context
import TrustGate.Certificate.Key

/-!
# TLS sessions: the trust gate

A session runs on a socket.  It starts unverified if there are chain validators, and
stays so until a handshake of the engine was followed by a pass in which all of them
accepted the peer's chain.  Reading and writing first make sure of that: on an
unverified session they do the handshake, and with it the pass, before the engine is
asked for data.

    wrap context socket host handshake   starts a session
    doHandshake id                       handshake, then the pass
    verifyPeerChain id                   the pass, unless it has succeeded before
    requireTrusted id                    what reading and writing do first
-/

namespace TrustGate.Tls

/-- Ways in which a session that is closed refuses work. -/
inductive SessionFault where
  | readClosed
  | writeClosed
  | noIndex
  deriving DecidableEq, Repr

instance : Cause SessionFault where
  kind
    | .readClosed | .writeClosed => .value
    | .noIndex => .index
  message
    | .readClosed => "Read on closed or unwrapped SSL socket."
    | .writeClosed => "Write on closed or unwrapped SSL socket."
    | .noIndex => "tuple index out of range"

/-- The failure of an operation on a socket that is closed. -/
def badDescriptor : Failure :=
  .mk .os [.int 9, .text "Bad file descriptor"] none

/-- The reason of a rejected certificate. -/
def rejectionReason (f : Failure) : String := (f.args.headD .null).shown

/-- A rejected chain as a failure of the handshake. -/
def handshakeRejection (f : Failure) : Failure :=
  (Failure.plain .sslVerification ("certificate rejected: " ++ rejectionReason f)).because f

namespace Session

/-- A session that nobody has started. -/
def unknown : Session := ⟨none, [], true, false⟩

variable {π τ : Type} [Platform π τ]

/-- What the library knows of a session. -/
def find (id : SocketId) : Action π τ Session := return ((← get).sessions id).getD unknown

/-- The certificates that the peer presented, leaf first: the chain as the engine verified it, or
else the leaf alone. -/
def peerChain (id : SocketId) : Action π τ (List Certificate) := do
  let verified ← Action.ofExcept (← ask (.verifiedChain id))
  if !verified.isEmpty then Action.ofExcept (verified.mapM Certificate.ofOctets)
  else if !(← find id).isOpen then Action.refuse (Logging.NoAttribute.mk "NoneType" "getpeercert")
  else
    match ← Action.ofExcept (← ask (.peer id)) with
    | none => return []
    | some [] => return []
    | some leaf => return [← Action.ofExcept (Certificate.ofOctets leaf)]

/-- The algorithm of the leaf's key. -/
def chainAuthType : List Certificate → Except Failure String
  | [] => .ok Certificate.unknownAuthType
  | leaf :: _ => leaf.authType

/-- Asks all validators, in order. -/
def askAll (chain : List Certificate) (authType : String) (host : Option String) :
    List Trust.Provider → Action π τ Unit
  | [] => pure ()
  | v :: vs => do
    v.check chain authType host
    askAll chain authType host vs

/-- What is done about a chain that was not accepted: a rejection is counted and fails the
handshake, any other failure passes. -/
def explainRejection (host : Option String) (f : Failure) : Action π τ Unit :=
  if f.kind = .certificateRejected then do
    countDecision .rejected
    warningLog Context.logger "Rejected certificate chain from %s: %s"
      [(host.map Value.text).getD .null, .text (rejectionReason f)]
    throw (handshakeRejection f)
  else throw f

/-- Has the validators check the peer's chain, unless they have accepted it before. -/
def verifyPeerChain (id : SocketId) : Action π τ Unit := do
  let s ← find id
  if !s.verified then
    let chain ← peerChain id
    let authType ← Action.ofExcept (chainAuthType chain)
    tryCatch (askAll chain authType s.host s.validators) (explainRejection s.host)
    countDecision .accepted
    modify fun w => w.setSession id { s with verified := true }

/-- The handshake of the engine, then the check of the chain. -/
def doHandshake (id : SocketId) : Action π τ Unit := do
  if !(← find id).isOpen then throw badDescriptor
  Action.ofExcept (← ask (.handshake id))
  verifyPeerChain id

/-- Does the handshake if the chain is not accepted yet and the session is open. -/
def requireTrusted (id : SocketId) : Action π τ Unit := do
  let s ← find id
  if !s.verified && s.isOpen then doHandshake id

/-! ## Reading and writing -/

/-- The number by which an engine tells that the peer ended the stream. -/
def endOfStream : Int := 8

/-- A failed read: the end of the stream reads as no data. -/
def readFailure (f : Failure) : Except Failure Octets :=
  if f.kind.isSsl then
    match f.args with
    | [] => TrustGate.refuse SessionFault.noIndex
    | v :: _ => if v.sameKey (.int endOfStream) then .ok [] else .error f
  else .error f

/-- Data that the engine reads for an open session. -/
def engineRead (id : SocketId) (size : Int) : Action π τ Octets := do
  match ← ask (.read id size) with
  | .ok bs => return bs
  | .error f => Action.ofExcept (readFailure f)

/-- Reads at most `size` octets. -/
def read (id : SocketId) (size : Int) : Action π τ Octets := do
  requireTrusted id
  if (← find id).isOpen then engineRead id size else Action.refuse SessionFault.readClosed

/-- Reads as from a socket: a closed one has no descriptor. -/
def receive (id : SocketId) (size : Int) : Action π τ Octets := do
  if (← find id).isOpen then read id size else throw badDescriptor

/-- Writes data and tells how much of it was taken. -/
def write (id : SocketId) (data : Octets) : Action π τ Nat := do
  requireTrusted id
  if (← find id).isOpen then Action.ofExcept (← ask (.write id data))
  else Action.refuse SessionFault.writeClosed

/-- Writes as to a socket. -/
def send (id : SocketId) (data : Octets) : Action π τ Nat := do
  requireTrusted id
  if (← find id).isOpen then Action.ofExcept (← ask (.write id data)) else throw badDescriptor

/-- Sends the rest of some data as often as it takes. -/
def sendRest (id : SocketId) : (fuel : Nat) → Octets → Action π τ Unit
  | _, [] => pure ()
  | 0, _ => pure ()
  | fuel + 1, data => do
    let taken ← send id data
    sendRest id fuel (data.drop taken)

/-- Sends all data. -/
def sendAll (id : SocketId) (data : Octets) : Action π τ Unit := do
  if (← find id).isOpen then sendRest id data.length data else throw badDescriptor

/-- Closes a session, as often as asked. -/
def close (id : SocketId) : Action π τ Unit := do
  let s ← find id
  modify fun w => w.setSession id { s with isOpen := false }
  ask (.closeSession id)

/-- The version agreed on, none before the handshake and after closing. -/
def version (id : SocketId) : Action π τ (Option String) := do
  if (← find id).isOpen then Action.ofExcept (← ask (.version id)) else return none

/-- The cipher suite agreed on, none after closing. -/
def cipher (id : SocketId) : Action π τ (Option Cipher) := do
  if (← find id).isOpen then Action.ofExcept (← ask (.cipher id)) else return none

end Session

namespace Context

variable {π τ : Type} [Platform π τ]

/-- Starts a session over a connected socket, which it takes over.  The session goes by the name
that the engine has made of the host.  A handshake that fails closes the session. -/
def wrap (c : Context) (socket : SocketId) (host : Option String) (handshake : Bool) :
    Action π τ SocketId := do
  let name ← Action.ofExcept (← ask (.wrap c.engine socket host))
  let validators := c.validators
  modify fun w => w.setSession socket ⟨name, validators, validators.isEmpty, true⟩
  if handshake then Action.onFailure (Session.doHandshake socket) (Session.close socket)
  return socket

end Context

end TrustGate.Tls
