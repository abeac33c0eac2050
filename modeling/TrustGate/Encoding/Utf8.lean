import TrustGate.Value.Basic

/-!
# UTF-8

Octets as text.  A decoder state reads one character at a time; at the first
octets that are no character it reports where they stand and what is wrong.

    decode bs = .ok cs      bs are the octets of the characters cs
    decode bs = .error e    the octets from e.start to e.stop are no character
-/

namespace TrustGate.Encoding

/-- Where octets stop being UTF-8, and why. -/
structure Utf8Fault where
  octet : UInt8
  start : Nat
  /-- The position after the last octet of the broken sequence. -/
  stop : Nat
  reason : String
  deriving DecidableEq, Repr

inductive Utf8Step where
  | char (c : Char) (width : Nat)
  /-- A broken sequence of `width` octets. -/
  | broken (width : Nat) (reason : String)
  deriving DecidableEq, Repr

def isContinuation (b : UInt8) : Bool := 0x80 ≤ b && b ≤ 0xBF

def payload (b : UInt8) : Nat := b.toNat % 64

def unexpectedEnd : String := "unexpected end of data"

def invalidContinuation : String := "invalid continuation byte"

def invalidStart : String := "invalid start byte"

/-- The octets that may follow the first one: the least and the greatest. -/
def secondRange (b : UInt8) : UInt8 × UInt8 :=
  if b = 0xE0 then (0xA0, 0xBF)
  else if b = 0xED then (0x80, 0x9F)
  else if b = 0xF0 then (0x90, 0xBF)
  else if b = 0xF4 then (0x80, 0x8F)
  else (0x80, 0xBF)

/-- How many octets a sequence has that starts with this one; 0 if none does. -/
def sequenceWidth (b : UInt8) : Nat :=
  if b < 0x80 then 1
  else if b < 0xC2 then 0
  else if b < 0xE0 then 2
  else if b < 0xF0 then 3
  else if b < 0xF5 then 4
  else 0

/-- Reads the character that starts with `b`. -/
def stepUtf8 (b : UInt8) (rest : Octets) : Utf8Step :=
  let (low, high) := secondRange b
  match sequenceWidth b, rest with
  | 0, _ => .broken 1 invalidStart
  | 1, _ => .char (Char.ofNat b.toNat) 1
  | _, [] => .broken 1 unexpectedEnd
  | width, c :: rest =>
    if c < low ∨ high < c then .broken 1 invalidContinuation
    else if width = 2 then .char (Char.ofNat ((b.toNat % 32) * 64 + payload c)) 2
    else
      match rest with
      | [] => .broken 2 unexpectedEnd
      | d :: rest =>
        if !isContinuation d then .broken 2 invalidContinuation
        else if width = 3 then
          .char (Char.ofNat (((b.toNat % 16) * 64 + payload c) * 64 + payload d)) 3
        else
          match rest with
          | [] => .broken 3 unexpectedEnd
          | e :: _ =>
            if !isContinuation e then .broken 3 invalidContinuation
            else .char (Char.ofNat ((((b.toNat % 8) * 64 + payload c) * 64 + payload d) * 64 +
              payload e)) 4

/-- Decodes from position `start` on; `skip` octets belong to the character just read. -/
def decodeFrom : (start skip : Nat) → Octets → Except Utf8Fault (List Char)
  | _, _, [] => .ok []
  | start, skip + 1, _ :: rest => decodeFrom (start + 1) skip rest
  | start, 0, b :: rest =>
    match stepUtf8 b rest with
    | .char c width => (decodeFrom (start + 1) (width - 1) rest).map (c :: ·)
    | .broken width reason => .error ⟨b, start, start + width, reason⟩

/-- The text of octets. -/
def decodeUtf8 (bs : Octets) : Except Utf8Fault String :=
  (decodeFrom 0 0 bs).map String.ofList

def decodeUtf8? (bs : Octets) : Option String := (decodeUtf8 bs).toOption

/-- The octets of a text. -/
def encodeUtf8 (s : String) : Octets := s.toUTF8.data.toList

end TrustGate.Encoding
