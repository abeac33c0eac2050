import TrustGate.Tls.Session
import TrustGate.Json.Basic

/-!
# Snapshots of a session

What the probe reports of a session: peer, protocol, cipher and the leaf of the chain.
What is not known is `unknown` or empty.
-/

namespace TrustGate.Probe

structure Snapshot where
  host : Value
  port : Value
  protocol : String
  cipher : String
  cipherBits : Int
  peerSubject : String
  peerIssuer : String
  peerNotAfter : String
  chainLength : Nat

namespace Snapshot

variable {π τ : Type} [Platform π τ]

/-- The description of the leaf, empty if there is none. -/
def describeLeaf : List Certificate → Except Failure Certificate.Description
  | [] => .ok ⟨"", "", "", "", ""⟩
  | leaf :: _ => leaf.describe

/-- Takes the snapshot of a session. -/
def take (host port : Value) (session : SocketId) : Action π τ Snapshot := do
  let chain ← Tls.Session.peerChain session
  let cipher := (← Tls.Session.cipher session).getD ⟨"unknown", "", none⟩
  let leaf ← Action.ofExcept (describeLeaf chain)
  let version ← Tls.Session.version session
  return {
    host
    port
    protocol := (nonempty? version).getD "unknown"
    cipher := cipher.name
    cipherBits := cipher.bits.getD 0
    peerSubject := leaf.subject
    peerIssuer := leaf.issuer
    peerNotAfter := leaf.notAfter
    chainLength := chain.length }

/-- The snapshot in lines. -/
def text (s : Snapshot) : String :=
  "[Probe] --- Session ---\n" ++
  "peer=" ++ s.host.shown ++ ":" ++ s.port.shown ++ "\n" ++
  "protocol=" ++ s.protocol ++ "\n" ++
  "cipher=" ++ s.cipher ++ " (" ++ toString s.cipherBits ++ " bits)\n" ++
  "subject=" ++ s.peerSubject ++ "\n" ++
  "issuer=" ++ s.peerIssuer ++ "\n" ++
  "not_after=" ++ s.peerNotAfter ++ "\n" ++
  "chain_length=" ++ toString s.chainLength

/-- The snapshot as a JSON object. -/
def document (s : Snapshot) : Json :=
  .object [("host", Logging.image s.host), ("port", Logging.image s.port),
    ("protocol", .text s.protocol), ("cipher", .text s.cipher), ("cipher_bits", .int s.cipherBits),
    ("peer_subject", .text s.peerSubject), ("peer_issuer", .text s.peerIssuer),
    ("peer_not_after", .text s.peerNotAfter), ("chain_length", .int s.chainLength)]

end Snapshot

end TrustGate.Probe
