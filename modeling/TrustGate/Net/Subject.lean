import TrustGate.Net.Address
import TrustGate.Text.LetterCase
import TrustGate.Failure.Basic

/-!
# Subjects: the names that certificates carry and hosts are known by

A subject is a DNS name or an IP address; a certificate may also name a whole
network.  A host that reads as an address is compared with addresses only, any
other host with DNS names only.  A pattern `*.example.org` covers exactly one
further label.

    Subject.ofHost       the subject of a host
    dnsMatches p h       the pattern p covers the host h
    matchesAny names s   some name of a certificate covers the subject s
-/

namespace TrustGate.Net

inductive Subject where
  | dns (name : String)
  | address (ip : IpAddress)
  /-- A network: the address and the length of its mask. -/
  | network (ip : IpAddress) (length : Nat)
  deriving DecidableEq, Repr

inductive NameFault where
  /-- DNS names are ASCII; others have to be encoded by the caller. -/
  | notAscii
  /-- A verifier cannot be bound to such a name. -/
  | invalidDomainName
  /-- A verifier cannot be bound to a network. -/
  | invalidAddress
  deriving DecidableEq, Repr

instance : Cause NameFault where
  kind _ := .value
  message
    | .notAscii => "DNSName values should be passed as an A-label string. This means unicode " ++
        "characters should be encoded via a library like idna."
    | .invalidDomainName => "invalid domain name"
    | .invalidAddress => "invalid IP address"

/-- A DNS name, which must be ASCII. -/
def Subject.ofDnsName (name : String) : Except Failure Subject :=
  if name.toList.all (·.toNat < 128) then .ok (.dns name) else refuse NameFault.notAscii

/-- The subject of a host: an address if it reads as one. -/
def Subject.ofHost (host : String) : Except Failure Subject :=
  match IpAddress.read? host with
  | some ip => .ok (.address ip)
  | none => Subject.ofDnsName host

/-- Lower case and without trailing dots, the form in which names are compared. -/
def foldedName (name : String) : List Char :=
  ((Text.lower name.toList).reverse.dropWhile (· = '.')).reverse

/-- Whether a pattern covers a host. -/
def dnsMatches (pattern host : String) : Bool :=
  let host := foldedName host
  match foldedName pattern with
  | '*' :: '.' :: parent =>
    let head := host.takeWhile (· ≠ '.')
    let tail := (host.drop head.length).drop 1
    !head.isEmpty && tail == parent
  | pattern => pattern == host

/-- Whether one name covers a subject. -/
def Subject.covers (name subject : Subject) : Bool :=
  match subject, name with
  | .address ip, .address jp => ip == jp
  | .address _, _ => false
  | .dns host, .dns pattern => dnsMatches pattern host
  | _, _ => false

/-- Whether some name covers the subject. -/
def matchesAny (names : List Subject) (subject : Subject) : Bool :=
  names.any (·.covers subject)

/-- A subject with its kind in front. -/
def Subject.text : Subject → String
  | .dns name => "dns:" ++ name
  | .address ip => "ip:" ++ ip.text
  | .network ip length => "ip:" ++ ip.text ++ "/" ++ toString length

/-! ## Names a verifier can be bound to -/

def isLabelChar (c : Char) : Bool := c.isAlphanum || c = '-'

/-- One to sixty-three letters, digits and hyphens, no hyphen at either end. -/
def isLabel (cs : List Char) : Bool :=
  !cs.isEmpty && decide (cs.length ≤ 63) && cs.all isLabelChar &&
    cs.head? != some '-' && cs.getLast? != some '-'

/-- A domain name of at most 253 characters, all labels of which are proper. -/
def isDomainName (name : String) : Bool :=
  let cs := name.toList
  !cs.isEmpty && decide (cs.length ≤ 253) && (splitAt '.' cs).all isLabel

/-- Binds a verifier to a subject: a DNS name has to be a domain name, and a network is none. -/
def Subject.bind (subject : Subject) : Except Failure Unit :=
  match subject with
  | .dns name => if isDomainName name then .ok () else refuse NameFault.invalidDomainName
  | .address _ => .ok ()
  | .network _ _ => refuse NameFault.invalidAddress

end TrustGate.Net
