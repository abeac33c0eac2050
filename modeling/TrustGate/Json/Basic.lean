import TrustGate.Decimal.Layout
import TrustGate.Decimal.Reader

/-!
# JSON documents

Documents keep the order of their members and tell whole numbers from decimal
ones.  `render` writes without spaces, escapes only what must be escaped, and
writes a number that JSON cannot hold as null.
-/

namespace TrustGate

inductive Json where
  | null
  | bool (b : Bool)
  | int (i : Int)
  | float (x : Float)
  | text (s : String)
  | array (items : List Json)
  | object (members : List (String × Json))
  deriving Inhabited

namespace Json

/-- The escape of a character in a string. -/
def escape (c : Char) : List Char :=
  if c = '"' then ['\\', '"']
  else if c = '\\' then ['\\', '\\']
  else if c = '\n' then ['\\', 'n']
  else if c = '\r' then ['\\', 'r']
  else if c = '\t' then ['\\', 't']
  else if c.toNat = 8 then ['\\', 'b']
  else if c.toNat = 12 then ['\\', 'f']
  else if c.toNat < 32 then '\\' :: 'u' :: Text.hex 4 c.toNat
  else [c]

def quote (s : String) : List Char := '"' :: s.toList.flatMap escape ++ ['"']

/-- A decimal number; one that is not finite is null. -/
def number (x : Float) : List Char :=
  match Decimal.parts x with
  | .finite _ _ _ => (Decimal.Layout.json.text x).toList
  | _ => "null".toList

/-- Parts joined by commas. -/
def joined : List (List Char) → List Char
  | [] => []
  | [x] => x
  | x :: xs => x ++ ',' :: joined xs

mutual

def chars : Json → List Char
  | .null => "null".toList
  | .bool b => if b then "true".toList else "false".toList
  | .int i => (toString i).toList
  | .float x => number x
  | .text s => quote s
  | .array items => '[' :: joined (charsEach items) ++ [']']
  | .object members => '\x7b' :: joined (charsMembers members) ++ ['\x7d']

def charsEach : List Json → List (List Char)
  | [] => []
  | x :: xs => x.chars :: charsEach xs

def charsMembers : List (String × Json) → List (List Char)
  | [] => []
  | (k, v) :: rest => (quote k ++ ':' :: v.chars) :: charsMembers rest

end

/-- The text of a document. -/
def render (j : Json) : String := String.ofList j.chars

mutual

/-- Whether the whole numbers of a document are short enough to be written. -/
def hasText : Json → Bool
  | .int i => Decimal.hasText i
  | .array items => eachHasText items
  | .object members => membersHaveText members
  | _ => true

def eachHasText : List Json → Bool
  | [] => true
  | x :: xs => x.hasText && eachHasText xs

def membersHaveText : List (String × Json) → Bool
  | [] => true
  | (_, v) :: rest => v.hasText && membersHaveText rest

end

/-- The member of an object with a name. -/
def get? (j : Json) (name : String) : Option Json :=
  match j with
  | .object members => members.lookup name
  | _ => none

end Json

end TrustGate
