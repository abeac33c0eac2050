import TrustGate.Platform.Call

/-!
# Scripts for a rehearsal

A script says in advance how a platform behaves: what name resolution gives, how each
socket fares, what the engine refuses and what a session reads.  What it does not
mention succeeds at once.
-/

namespace TrustGate.Rehearsal

structure ResolveScript where
  /-- How long resolution takes, in seconds. -/
  take : Float
  failure : Option Failure
  endpoints : List Endpoint

structure SocketScript where
  createFailure : Option Failure
  bindFailure : Option Failure
  connectFailure : Option Failure
  /-- How long connecting takes, in seconds. -/
  take : Float
  /-- Connecting takes its time whatever the limit. -/
  overrun : Bool

def SocketScript.plain : SocketScript := ⟨none, none, none, 0.0, false⟩

structure NetScript where
  resolve : ResolveScript
  /-- One script for each socket in the order they are made. -/
  sockets : List SocketScript
  directFailure : Option Failure

def NetScript.plain : NetScript := ⟨⟨0.0, none, []⟩, [], none⟩

structure EngineScript where
  /-- Failures by the name of the setting or loading that they answer. -/
  failures : List (String × Failure)
  /-- Versions that read back whatever was set. -/
  minimum : Option TlsVersion
  maximum : Option TlsVersion

def EngineScript.plain : EngineScript := ⟨[], none, none⟩

structure SessionScript where
  wrapFailure : Option Failure
  /-- How the handshakes end, in turn; further ones succeed. -/
  handshakes : List (Option Failure)
  peer : Option Octets
  verifiedChain : List Octets
  version : Option String
  cipher : Option Cipher
  /-- What reading gives, in turn; further reads give nothing. -/
  reads : List (Except Failure Octets)
  writeFailure : Option Failure
  /-- The most that one write takes. -/
  writeLimit : Option Nat

def SessionScript.plain : SessionScript where
  wrapFailure := none
  handshakes := []
  peer := none
  verifiedChain := []
  version := some "TLSv1.2"
  cipher := some ⟨"TEST-CIPHER", "TLSv1.2", some 256⟩
  reads := []
  writeFailure := none
  writeLimit := none

/-- What an object of a caller's making does when it is used. -/
structure CustomScript where
  install : Option Failure
  check : Option Failure
  anchors : Except Failure (List Certificate)

end TrustGate.Rehearsal
