import TrustGate.Failure.Basic

/-!
# Choosing the protocol version

A connection speaks exactly one version of TLS.  A caller names it by its common
name or gives the version itself; the two open-ended versions are refused.
-/

namespace TrustGate.Tls

inductive ProtocolFault where
  | unknownName (quoted : String)
  | notAVersion (quoted : String)
  | openEnded
  deriving DecidableEq, Repr

/-- The names of the versions that can be asked for, oldest first. -/
def protocolNames : List (String × TlsVersion) :=
  [("TLSv1", .tls10), ("TLSv1.1", .tls11), ("TLSv1.2", .tls12), ("TLSv1.3", .tls13)]

def protocolOfName? (name : String) : Option TlsVersion := protocolNames.lookup name

instance : Cause ProtocolFault where
  kind _ := .configuration
  message
    | .unknownName quoted => "Unknown TLS protocol " ++ quoted ++ "; expected one of " ++
        String.intercalate ", " (protocolNames.map (·.1))
    | .notAVersion quoted => "Invalid TLS protocol " ++ quoted
    | .openEnded => "The TLS protocol must name exactly one version"

def defaultProtocolName : String := "TLSv1.2"

def defaultProtocol : TlsVersion := .tls12

/-- Whether a version stands for one version only. -/
def isSingle : TlsVersion → Bool
  | .minimumSupported | .maximumSupported => false
  | _ => true

/-- The single version that a caller asks for. -/
def resolveProtocol : Value → Except Failure TlsVersion
  | .text name =>
    match protocolOfName? name with
    | some v => .ok v
    | none => refuse (ProtocolFault.unknownName (Value.text name).quoted)
  | .version v => if isSingle v then .ok v else refuse ProtocolFault.openEnded
  | v => refuse (ProtocolFault.notAVersion v.quoted)

end TrustGate.Tls
