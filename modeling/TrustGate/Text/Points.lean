import TrustGate.Failure.Basic

/-!
# Code points and encodings

A number put into a text with `%c` may be half of a surrogate pair, which is a code
point but no character.  Text is written to files and lines through a `Codec`; code
points that it has no octets for make it fail, and it says where the first run of them
stands.

    points s             the code points of a text of characters
    escaped ps           the text with escapes in place of halves
    codec.check ps       whether the codec has octets for all of them
    characters ps        the characters of a text that is to be written as UTF-8
-/

namespace TrustGate.Text

/-- A character, or half of a surrogate pair by its distance from the first of them. -/
inductive Point where
  | char (c : Char)
  | half (offset : Fin 0x800)
  deriving DecidableEq, Repr

namespace Point

/-- The code point of a number. -/
def ofNat? (n : Nat) : Option Point :=
  if h : 0xD800 ≤ n ∧ n < 0xE000 then some (.half ⟨n - 0xD800, by omega⟩)
  else if n < 0x110000 then some (.char (Char.ofNat n))
  else none

def char? : Point → Option Char
  | .char c => some c
  | .half _ => none

def halfEscape (offset : Fin 0x800) : List Char := '\\' :: 'u' :: hex 4 (0xD800 + offset)

/-- A character as it is, a half by its escape. -/
def shown : Point → List Char
  | .char c => [c]
  | .half offset => halfEscape offset

/-- A code point in ASCII. -/
def inAscii : Point → String
  | .char c => asciiOnly (String.singleton c)
  | .half offset => String.ofList (halfEscape offset)

end Point

def points (s : String) : List Point := s.toList.map .char

def escaped (ps : List Point) : String := String.ofList (ps.flatMap Point.shown)

/-! ## Encodings -/

/-- A run of code points that an encoding has no octets for. -/
structure Unencodable where
  codec : String
  reason : String
  first : Point
  start : Nat
  length : Nat

instance : Cause Unencodable where
  kind _ := .unicodeEncode
  message u :=
    "'" ++ u.codec ++ "' codec can't encode " ++
      (if u.length ≤ 1 then
          "character '" ++ u.first.inAscii ++ "' in position " ++ toString u.start
        else "characters in position " ++ toString u.start ++ "-" ++
          toString (u.start + u.length - 1)) ++
      ": " ++ u.reason

/-- What an encoding has octets for, and what it says of the rest. -/
structure Codec where
  name : String
  reason : String
  accepts : Point → Bool

namespace Codec

def ascii : Codec where
  name := "ascii"
  reason := "ordinal not in range(128)"
  accepts
    | .char c => decide (c.toNat < 128)
    | .half _ => false

def utf8 : Codec where
  name := "utf-8"
  reason := "surrogates not allowed"
  accepts
    | .char _ => true
    | .half _ => false

/-- Fails with the first run of code points that have no octets. -/
def check (codec : Codec) (ps : List Point) : Except Failure Unit :=
  match ps.dropWhile codec.accepts with
  | [] => .ok ()
  | p :: rest =>
    refuse (Unencodable.mk codec.name codec.reason p (ps.length - rest.length - 1)
      (1 + (rest.takeWhile fun q => !codec.accepts q).length))

end Codec

/-- The characters of a text that is to be written as UTF-8. -/
def characters (ps : List Point) : Except Failure String := do
  Codec.utf8.check ps
  return String.ofList (ps.filterMap Point.char?)

end TrustGate.Text
