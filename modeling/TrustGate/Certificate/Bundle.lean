import TrustGate.Certificate.Basic
import TrustGate.Encoding.Pem

/-!
# Certificate bundles

The certificates of a PEM file in the order of their blocks.  Blocks with other
labels are passed over; a file without a certificate is no bundle.
-/

namespace TrustGate.Certificate

inductive BundleFault where
  | unreadable
  deriving DecidableEq, Repr

instance : Cause BundleFault where
  kind _ := .value
  message _ := "Unable to load PEM file"

/-- The labels of certificate blocks. -/
def certificateLabels : List String := ["CERTIFICATE", "X509 CERTIFICATE"]

/-- The certificates of a bundle. -/
def bundle (bs : Octets) : Except Failure (List Certificate) := do
  match Encoding.readPem? bs with
  | none => refuse BundleFault.unreadable
  | some blocks =>
    let certificates ← (blocks.filter (certificateLabels.contains ·.label)).mapM
      fun b => ofOctets b.content
    if certificates.isEmpty then refuse BundleFault.unreadable else return certificates

end TrustGate.Certificate
