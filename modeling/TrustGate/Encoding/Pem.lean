import TrustGate.Encoding.Base64
import TrustGate.Encoding.Utf8
import TrustGate.Text.Class

/-!
# PEM

Blocks of base64 between `-----BEGIN label-----` and `-----END label-----`, with
anything between the blocks.  A block that is cut off ends the search; a block that
is complete but broken makes the whole file unreadable.
-/

namespace TrustGate.Encoding

/-- A complete block: everything between its marks. -/
structure PemCapture where
  beginLabel : Octets
  body : Octets
  endLabel : Octets
  deriving DecidableEq, Repr

structure PemBlock where
  label : String
  content : Octets
  deriving DecidableEq, Repr

def asciiOctets (s : String) : Octets := s.toList.map fun c => UInt8.ofNat c.toNat

/-- Looks for a mark from a state where `found` octets of it have been seen; an octet that does not
continue the mark starts the search again behind it.  `before` counts the octets read. -/
def findMark (mark : Octets) : (before found : Nat) → Octets → Option (Nat × Octets)
  | _, _, [] => none
  | before, found, b :: rest =>
    let found := if mark[found]? = some b then found + 1 else 0
    if found = mark.length then some (before + 1 - found, rest)
    else findMark mark (before + 1) found rest

/-- What stands before the first mark, and what follows it. -/
def splitAtMark (mark : String) (bs : Octets) : Option (Octets × Octets) :=
  (findMark (asciiOctets mark) 0 0 bs).map fun (n, rest) => (bs.take n, rest)

def skipPemSpace (bs : Octets) : Octets :=
  bs.dropWhile fun b => b == 32 || b == 9 || b == 10 || b == 13

/-- The first complete block and what follows it. -/
def takeCapture (bs : Octets) : Option (PemCapture × Octets) := do
  let (_, bs) ← splitAtMark "-----BEGIN " bs
  let (beginLabel, bs) ← splitAtMark "-----" bs
  let (body, bs) ← splitAtMark "-----END " (skipPemSpace bs)
  let (endLabel, bs) ← splitAtMark "-----" bs
  return (⟨beginLabel, body, endLabel⟩, skipPemSpace bs)

/-- All complete blocks; a block takes octets, so the length bounds their number. -/
def captures : (fuel : Nat) → Octets → List PemCapture
  | 0, _ => []
  | fuel + 1, bs =>
    match takeCapture bs with
    | some (c, rest) => c :: captures fuel rest
    | none => []

/-- The headers of a body, which end at an empty line, and its data. -/
def splitHeaders (body : Octets) : Octets × Octets :=
  match splitAtMark "\n\n" body with
  | some split => split
  | none => (splitAtMark "\r\n\r\n" body).getD ([], body)

/-- The lines of a text. -/
def linesOf : List Char → List (List Char)
  | [] => []
  | '\n' :: cs => [] :: linesOf cs
  | c :: cs =>
    match cs, linesOf cs with
    | [], _ => [[c]]
    | '\n' :: _, ls => [c] :: ls.drop 1
    | _, l :: ls => (c :: l) :: ls
    | _, [] => [[c]]

def dropTrailingSpace (cs : List Char) : List Char :=
  (cs.reverse.dropWhile Text.isWhiteSpace).reverse

/-- The label and content of a block. -/
def PemCapture.read (c : PemCapture) : Option PemBlock := do
  let label ← decodeUtf8? c.beginLabel
  let endLabel ← decodeUtf8? c.endLabel
  let (headers, data) := splitHeaders c.body
  let data ← decodeUtf8? data
  let content ← decodeBase64? ((linesOf data.toList).flatMap dropTrailingSpace)
  let headers ← decodeUtf8? headers
  if label ≠ "" ∧ label = endLabel ∧ (linesOf headers.toList).all (·.contains ':') then
    return ⟨label, content⟩
  else none

/-- The blocks of a file, if all of them are readable. -/
def readPem? (bs : Octets) : Option (List PemBlock) :=
  (captures bs.length bs).mapM PemCapture.read

/-! ## Writing -/

/-- Rows of at most `width` characters. -/
def rows (width : Nat) : (fuel : Nat) → List Char → List (List Char)
  | 0, _ => []
  | _, [] => []
  | fuel + 1, cs => cs.take width :: rows width fuel (cs.drop width)

/-- A block with base64 in rows of sixty-four letters, every line followed by `lineEnd`. -/
def pemText (label lineEnd : String) (content : Octets) : String :=
  let letters := encodeBase64 content
  let body := (rows 64 letters.length letters).map String.ofList
  let lines := ["-----BEGIN " ++ label ++ "-----"] ++ body ++ ["-----END " ++ label ++ "-----"]
  String.join (lines.map (· ++ lineEnd))

end TrustGate.Encoding
