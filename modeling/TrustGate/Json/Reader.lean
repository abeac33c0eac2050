import TrustGate.Json.Basic
import TrustGate.Decimal.Reader

/-!
# Reading JSON documents

Each function takes what it reads from the front of the text and returns the
rest.  The fuel bounds the nesting and the length of lists; one unit per
character is enough.  A number without point and exponent is whole.
-/

namespace TrustGate.Json

open Text

def isSpace (c : Char) : Bool := c = ' ' || c = '\n' || c = '\r' || c = '\t'

def skipSpace (cs : List Char) : List Char := cs.dropWhile isSpace

/-- Four hexadecimal digits. -/
def takeHex4? : List Char → Option (Nat × List Char)
  | a :: b :: c :: d :: rest => do
    let a ← hexDigit? a
    let b ← hexDigit? b
    let c ← hexDigit? c
    let d ← hexDigit? d
    return (((a * 16 + b) * 16 + c) * 16 + d, rest)
  | _ => none

def isHighSurrogate (n : Nat) : Bool := 0xD800 ≤ n && n < 0xDC00

def isLowSurrogate (n : Nat) : Bool := 0xDC00 ≤ n && n < 0xE000

/-- The character of a `\u` escape; two halves of a pair make one character, a lone half the
replacement character. -/
def takeEscapedUnit? (cs : List Char) : Option (Char × List Char) := do
  let (high, rest) ← takeHex4? cs
  if isHighSurrogate high then
    match rest with
    | '\\' :: 'u' :: more =>
      match takeHex4? more with
      | some (low, after) =>
        if isLowSurrogate low then
          return (Char.ofNat (0x10000 + (high - 0xD800) * 0x400 + (low - 0xDC00)), after)
        else return ('\ufffd', rest)
      | none => return ('\ufffd', rest)
    | _ => return ('\ufffd', rest)
  else if isLowSurrogate high then return ('\ufffd', rest)
  else return (Char.ofNat high, rest)

/-- The character of a short escape. -/
def unescape? : Char → Option Char
  | '"' => some '"'
  | '\\' => some '\\'
  | '/' => some '/'
  | 'b' => some (Char.ofNat 8)
  | 'f' => some (Char.ofNat 12)
  | 'n' => some '\n'
  | 'r' => some '\r'
  | 't' => some '\t'
  | _ => none

/-- The rest of a string after its opening quote. -/
def takeString : (fuel : Nat) → List Char → Option (List Char × List Char)
  | 0, _ => none
  | fuel + 1, cs =>
    match cs with
    | '"' :: rest => some ([], rest)
    | '\\' :: 'u' :: rest => do
      let (c, rest) ← takeEscapedUnit? rest
      let (s, rest) ← takeString fuel rest
      return (c :: s, rest)
    | '\\' :: e :: rest => do
      let c ← unescape? e
      let (s, rest) ← takeString fuel rest
      return (c :: s, rest)
    | c :: rest =>
      if c.toNat < 32 then none
      else do
        let (s, rest) ← takeString fuel rest
        return (c :: s, rest)
    | [] => none

/-- The digits at the front and what follows them. -/
def takeDigits (cs : List Char) : List Char × List Char :=
  (cs.takeWhile Char.isDigit, cs.dropWhile Char.isDigit)

/-- A minus sign at the front, if there is one. -/
def takeMinus : List Char → Bool × List Char
  | '-' :: cs => (true, cs)
  | cs => (false, cs)

/-- The digits after a point, of which there is one at least; none if there is no point. -/
def takeFraction? : List Char → Option (List Char × List Char)
  | '.' :: cs =>
    match takeDigits cs with
    | ([], _) => none
    | (ds, rest) => some (ds, rest)
  | cs => some ([], cs)

/-- The exponent, if there is one. -/
def takeExponent? : List Char → Option (Option Int × List Char)
  | [] => some (none, [])
  | c :: cs =>
    if c = 'e' ∨ c = 'E' then
      let (negative, cs) := Decimal.takeSign cs
      match takeDigits cs with
      | ([], _) => none
      | (ds, rest) =>
        let n : Int := Nat.ofDigitChars 10 ds 0
        some (some (if negative then -n else n), rest)
    else some (none, c :: cs)

/-- A whole or decimal number; of more digits before the point the first is not zero. -/
def takeNumber? (cs : List Char) : Option (Json × List Char) := do
  let (negative, cs) := takeMinus cs
  let (whole, cs) := takeDigits cs
  if whole.isEmpty ∨ (whole.head? = some '0' ∧ whole ≠ ['0']) then none
  else
    let (fraction, cs) ← takeFraction? cs
    let (exponent, cs) ← takeExponent? cs
    if fraction.isEmpty ∧ exponent.isNone then
      let n : Int := Nat.ofDigitChars 10 whole 0
      return (.int (if negative then -n else n), cs)
    else
      let mantissa := Nat.ofDigitChars 10 (whole ++ fraction) 0
      let scale := exponent.getD 0 - fraction.length
      return (.float (Decimal.ofScientific negative mantissa scale), cs)

def takeWord? (word : String) (j : Json) (cs : List Char) : Option (Json × List Char) :=
  if word.toList.isPrefixOf cs then some (j, cs.drop word.length) else none

mutual

def takeValue? : (fuel : Nat) → List Char → Option (Json × List Char)
  | 0, _ => none
  | fuel + 1, cs =>
    match skipSpace cs with
    | '"' :: rest => do
      let (s, rest) ← takeString (rest.length + 1) rest
      return (.text (String.ofList s), rest)
    | '[' :: rest =>
      match skipSpace rest with
      | ']' :: rest => some (.array [], rest)
      | rest => do
        let (items, rest) ← takeItems? fuel rest
        return (.array items, rest)
    | '\x7b' :: rest =>
      match skipSpace rest with
      | '\x7d' :: rest => some (.object [], rest)
      | rest => do
        let (members, rest) ← takeMembers? fuel rest
        return (.object members, rest)
    | 'n' :: rest => takeWord? "ull" .null rest
    | 't' :: rest => takeWord? "rue" (.bool true) rest
    | 'f' :: rest => takeWord? "alse" (.bool false) rest
    | cs => takeNumber? cs

/-- The items of an array up to its closing bracket. -/
def takeItems? : (fuel : Nat) → List Char → Option (List Json × List Char)
  | 0, _ => none
  | fuel + 1, cs => do
    let (item, rest) ← takeValue? fuel cs
    match skipSpace rest with
    | ',' :: rest =>
      let (items, rest) ← takeItems? fuel rest
      return (item :: items, rest)
    | ']' :: rest => return ([item], rest)
    | _ => none

/-- The members of an object up to its closing brace. -/
def takeMembers? : (fuel : Nat) → List Char → Option (List (String × Json) × List Char)
  | 0, _ => none
  | fuel + 1, cs =>
    match skipSpace cs with
    | '"' :: rest => do
      let (name, rest) ← takeString (rest.length + 1) rest
      match skipSpace rest with
      | ':' :: rest =>
        let (item, rest) ← takeValue? fuel rest
        let member := (String.ofList name, item)
        match skipSpace rest with
        | ',' :: rest =>
          let (members, rest) ← takeMembers? fuel rest
          return (member :: members, rest)
        | '\x7d' :: rest => return ([member], rest)
        | _ => none
      | _ => none
    | _ => none

end

/-- Reads a whole document. -/
def read? (text : String) : Option Json :=
  let cs := text.toList
  match takeValue? (cs.length + 1) cs with
  | some (j, rest) => if (skipSpace rest).isEmpty then some j else none
  | none => none

end TrustGate.Json
