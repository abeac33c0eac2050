import TrustGate.Platform.World
import TrustGate.Certificate.Bundle
import TrustGate.Text.Points

/-!
# Trust and identity material

Material names files and may hold PEM text.  It exists only if the files do.  Its
anchors are the certificates of the file followed by those of the text; an empty name
or text counts as missing.
-/

namespace TrustGate

inductive MaterialFault where
  | noTrust
  | noCaFile (path : String)
  | noCertificateFile
  | noIdentityFile (path : String)
  | keyWithoutCertificate
  deriving DecidableEq, Repr

instance : Cause MaterialFault where
  kind _ := .configuration
  message
    | .noTrust => "Trust material requires a CA file or PEM data"
    | .noCaFile path => "TLS CA file does not exist: " ++ path
    | .noCertificateFile => "Identity material requires a certificate file"
    | .noIdentityFile path => "TLS identity file does not exist: " ++ path
    | .keyWithoutCertificate => "keyfile requires certfile"

/-- A text that is given and not empty. -/
def nonempty? : Option String → Option String
  | some "" => none
  | s => s

/-- The octets of a text, which must be ASCII. -/
def asciiBytes (s : String) : Except Failure Octets := do
  Text.Codec.ascii.check (Text.points s)
  return s.toList.map fun c => UInt8.ofNat c.toNat

namespace TrustMaterial

/-- Material exists only if it names something and the file it names exists. -/
def make (files : Files) (cafile cadata : Option String) : Except Failure TrustMaterial := do
  match nonempty? cafile with
  | none => if (nonempty? cadata).isNone then refuse MaterialFault.noTrust
  | some path => if !(← files.isFile path) then refuse (MaterialFault.noCaFile path)
  return ⟨cafile, cadata⟩

/-- The certificates of the file followed by those of the text. -/
def anchors (files : Files) (m : TrustMaterial) : Except Failure (List Certificate) := do
  let ofFile ← match nonempty? m.cafile with
    | none => pure []
    | some path => do Certificate.bundle (← files.read path)
  let ofText ← match nonempty? m.cadata with
    | none => pure []
    | some text => do Certificate.bundle (← asciiBytes text)
  return ofFile ++ ofText

end TrustMaterial

namespace IdentityMaterial

/-- Material exists only if the files it names exist. -/
def make (files : Files) (certfile keyfile : Option String) (password : Value) :
    Except Failure IdentityMaterial := do
  let some path := nonempty? certfile | refuse MaterialFault.noCertificateFile
  if !(← files.isFile path) then refuse (MaterialFault.noIdentityFile path)
  match nonempty? keyfile with
  | none => pure ()
  | some key => if !(← files.isFile key) then refuse (MaterialFault.noIdentityFile key)
  return ⟨path, keyfile, password⟩

end IdentityMaterial

end TrustGate
