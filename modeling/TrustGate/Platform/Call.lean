import TrustGate.Trust.Provider

/-!
# The platform: everything outside the library

Clocks, name resolution, sockets, the TLS engine, the chain verifier and objects of
callers' own making are reached through calls.  A platform answers each call, and may
answer differently each time, for it has a state of its own.  Calls that can fail
answer with a failure or a result; closing a socket, reading a clock and the verdict
on a chain cannot fail.

Sockets and engines are numbered by the library in the order they are made.  A TLS
session goes by the number of the socket it runs on.

    Call            what is asked
    Reply call      the type of the answer
    Platform π τ    a platform with states π whose clock counts in τ
    Happening τ     a call with its answer, or an event told to an observer
-/

namespace TrustGate

abbrev SocketId := Nat

abbrev EngineId := Nat

/-- Lengths and points of time, as the monotonic clock counts them. -/
class Duration (τ : Type) where
  zero : τ
  add : τ → τ → τ
  sub : τ → τ → τ
  le : τ → τ → Bool
  /-- The length of time that a caller gives; it may be too large to count. -/
  ofValue : Value → Except Failure τ

/-- How long operations on a socket may take. -/
inductive TimeLimit (τ : Type) where
  /-- As a caller gave it; null is no limit. -/
  | given (v : Value)
  /-- What is left until a deadline. -/
  | remaining (t : τ)

/-- An address that a name resolved to. -/
structure Endpoint where
  family : Int
  protocol : Int
  address : Value

/-- A cipher suite with the protocol it belongs to and the size of its keys. -/
structure Cipher where
  name : String
  protocol : String
  bits : Option Int
  deriving DecidableEq, Repr

/-- Why a chain was refused, if it was. -/
inductive Verdict where
  | accepted
  | refused (reason : String)
  deriving DecidableEq, Repr

/-- What a chain verifier is asked to do. -/
structure Verification where
  store : List Certificate
  /-- The time to verify at; none is the present. -/
  time : Option Time.DateTime
  subject : Net.Subject
  leaf : Certificate
  intermediates : List Certificate
  deriving Repr

/-- A chain as it is put before a custom validator. -/
structure Consultation where
  validator : Trust.Custom
  chain : List Certificate
  authType : String
  host : Option String
  deriving Repr

inductive Call (τ : Type) where
  | monotonicClock
  | wallClock
  | customClock (number : Nat)
  | resolve (host port : Value)
  | openSocket (socket : SocketId) (family protocol : Int)
  | setTimeout (socket : SocketId) (limit : TimeLimit τ)
  | bind (socket : SocketId) (address : Value)
  | connect (socket : SocketId) (address : Value)
  /-- Opens and connects a socket, trying all addresses of a host. -/
  | openDirect (socket : SocketId) (address : Value) (source : Option Value)
  | duplicate (socket copy : SocketId)
  | closeSocket (socket : SocketId)
  | isOpen (socket : SocketId)
  | newEngine (engine : EngineId)
  | setMinimumVersion (engine : EngineId) (version : TlsVersion)
  | setMaximumVersion (engine : EngineId) (version : TlsVersion)
  | setCheckHostname (engine : EngineId) (check : Bool)
  /-- The least and greatest version as the engine reports them. -/
  | versions (engine : EngineId)
  | loadIdentity (engine : EngineId) (certfile : String) (keyfile : Option String)
      (password : Value)
  | loadTrust (engine : EngineId) (cafile cadata : Option String)
  | loadDefaultTrust (engine : EngineId)
  /-- Starts a session on a socket, which the session takes over.  The answer is the name that the
  engine knows the peer by: that of the host, encoded as names in certificates are. -/
  | wrap (engine : EngineId) (socket : SocketId) (host : Option String)
  | handshake (session : SocketId)
  | read (session : SocketId) (size : Int)
  | write (session : SocketId) (data : Octets)
  | closeSession (session : SocketId)
  | verifiedChain (session : SocketId)
  | peer (session : SocketId)
  | version (session : SocketId)
  | cipher (session : SocketId)
  | verify (v : Verification)
  | consult (c : Consultation)
  | install (object : Trust.Custom) (engine : EngineId)
  | anchors (object : Trust.Custom)

/-- What a platform answers to a call. -/
def Reply {τ : Type} : Call τ → Type
  | .monotonicClock => τ
  | .wallClock => Time.DateTime
  | .customClock _ => Time.DateTime
  | .resolve _ _ => Except Failure (List Endpoint)
  | .openSocket _ _ _ => Except Failure Unit
  | .setTimeout _ _ => Except Failure Unit
  | .bind _ _ => Except Failure Unit
  | .connect _ _ => Except Failure Unit
  | .openDirect _ _ _ => Except Failure Unit
  | .duplicate _ _ => Except Failure Unit
  | .closeSocket _ => Unit
  | .isOpen _ => Bool
  | .newEngine _ => Except Failure Unit
  | .setMinimumVersion _ _ => Except Failure Unit
  | .setMaximumVersion _ _ => Except Failure Unit
  | .setCheckHostname _ _ => Except Failure Unit
  | .versions _ => TlsVersion × TlsVersion
  | .loadIdentity _ _ _ _ => Except Failure Unit
  | .loadTrust _ _ _ => Except Failure Unit
  | .loadDefaultTrust _ => Except Failure Unit
  | .wrap _ _ _ => Except Failure (Option String)
  | .handshake _ => Except Failure Unit
  | .read _ _ => Except Failure Octets
  | .write _ _ => Except Failure Nat
  | .closeSession _ => Unit
  | .verifiedChain _ => Except Failure (List Octets)
  | .peer _ => Except Failure (Option Octets)
  | .version _ => Except Failure (Option String)
  | .cipher _ => Except Failure (Option Cipher)
  | .verify _ => Verdict
  | .consult _ => Except Failure Unit
  | .install _ _ => Except Failure Unit
  | .anchors _ => Except Failure (List Certificate)

/-- A platform: its answer to a call and its state afterwards. -/
class Platform (π τ : Type) where
  answer : (call : Call τ) → π → Reply call × π
  /-- The time that log records made now bear, in seconds since the epoch. -/
  recordTime : π → Value

/-- Something that happened between the library and what is outside. -/
inductive Happening (τ : Type) where
  | called (call : Call τ) (reply : Reply call)
  | observed (observer : String) (event : Trust.TrustEvent)

end TrustGate
