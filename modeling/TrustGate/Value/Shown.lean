import TrustGate.Decimal.Reader
import TrustGate.Value.Basic
import TrustGate.Text.Printable

/-!
# Values as text

A value has two texts.  The quoted one shows what kind of value it is: text in
quotes with escapes, containers in brackets.  The plain one differs only for
text, which stands for itself, and for protocol versions and times.  Both are
refused to a value that holds a whole number of too many digits.

    v.shown, v.quoted     the texts
    v.hasText             whether they are made
-/

namespace TrustGate

open Text

namespace Text

/-- The escape of a character inside quoted text, or the character itself. -/
def quoteChar (quote c : Char) : List Char :=
  if c = quote ∨ c = '\\' then ['\\', c]
  else if c = '\n' then ['\\', 'n']
  else if c = '\r' then ['\\', 'r']
  else if c = '\t' then ['\\', 't']
  else if isPrintable c then [c]
  else if c.toNat < 0x100 then '\\' :: 'x' :: hex 2 c.toNat
  else if c.toNat < 0x10000 then '\\' :: 'u' :: hex 4 c.toNat
  else '\\' :: 'U' :: hex 8 c.toNat

/-- Single quotes, unless the text holds one and no double quote. -/
def quoteMark (cs : List Char) : Char :=
  if cs.contains '\'' && !cs.contains '"' then '"' else '\''

/-- A text in quotes. -/
def quoted (s : String) : String :=
  let mark := quoteMark s.toList
  String.ofList (mark :: s.toList.flatMap (quoteChar mark) ++ [mark])

/-- Octets in quotes after a `b`; those beyond ASCII are escaped. -/
def quotedOctets (bs : Octets) : String :=
  let cs := bs.map fun b => Char.ofNat b.toNat
  let mark := quoteMark cs
  let escape (c : Char) : List Char :=
    if c.toNat < 127 then quoteChar mark c else '\\' :: 'x' :: hex 2 c.toNat
  String.ofList ('b' :: mark :: cs.flatMap escape ++ [mark])

/-- ASCII only: every other character of a text is escaped. -/
def asciiOnly (s : String) : String :=
  String.ofList (s.toList.flatMap fun c =>
    if c.toNat < 128 then [c]
    else if c.toNat < 0x100 then '\\' :: 'x' :: hex 2 c.toNat
    else if c.toNat < 0x10000 then '\\' :: 'u' :: hex 4 c.toNat
    else '\\' :: 'U' :: hex 8 c.toNat)

def listed (parts : List String) : String := String.intercalate ", " parts

end Text

namespace Value

/-- The quoted text of a distance between two times: whole days, then seconds of the day. -/
def quotedDistance (micros : Int) : String :=
  let days := micros / 86400000000
  let rest := micros % 86400000000
  let parts := [("days", days), ("seconds", rest / 1000000), ("microseconds", rest % 1000000)]
  let shown := (parts.filter (·.2 != 0)).map fun (name, n) => name ++ "=" ++ toString n
  "datetime.timedelta(" ++ (if shown.isEmpty then "0" else listed shown) ++ ")"

/-- The fields of a time of day; seconds and microseconds only if there are some. -/
def clockFields (c : Time.Clock) : List String :=
  [toString c.hour, toString c.minute] ++
    (if c.micro ≠ 0 then [toString c.second, toString c.micro]
     else if c.second ≠ 0 then [toString c.second] else [])

def dateFields (d : Time.Date) : List String := [toString d.year, toString d.month, toString d.day]

def quotedDateTime (t : Time.DateTime) : String :=
  let zone := match t.offset with
    | none => []
    | some 0 => ["tzinfo=datetime.timezone.utc"]
    | some o => ["tzinfo=datetime.timezone(" ++ quotedDistance o ++ ")"]
  "datetime.datetime(" ++ listed (dateFields t.date ++ clockFields t.clock ++ zone) ++ ")"

def quotedVersion (v : TlsVersion) : String :=
  "<TLSVersion." ++ v.name ++ ": " ++ toString v.number ++ ">"

mutual

/-- The text of a value that shows its kind. -/
def quoted : Value → String
  | .null => "None"
  | .bool b => if b then "True" else "False"
  | .int i => toString i
  | .float x => Decimal.Layout.plain.text x
  | .text s => Text.quoted s
  | .bytes bs => Text.quotedOctets bs
  | .list xs => "[" ++ listed (quotedEach xs) ++ "]"
  | .tuple xs =>
    match quotedEach xs with
    | [x] => "(" ++ x ++ ",)"
    | parts => "(" ++ listed parts ++ ")"
  | .dict es => "\x7b" ++ listed (quotedEntries es) ++ "\x7d"
  | .dateTime t => quotedDateTime t
  | .date d => "datetime.date(" ++ listed (dateFields d) ++ ")"
  | .clock c => "datetime.time(" ++ listed (clockFields c) ++ ")"
  | .version v => quotedVersion v
  | .other s => s

def quotedEach : List Value → List String
  | [] => []
  | x :: xs => x.quoted :: quotedEach xs

def quotedEntries : List (Value × Value) → List String
  | [] => []
  | (k, v) :: es => (k.quoted ++ ": " ++ v.quoted) :: quotedEntries es

end

/-- The plain text of a value. -/
def shown : Value → String
  | .text s => s
  | .dateTime t => t.text ' '
  | .date d => String.ofList d.text
  | .clock c => String.ofList c.text
  | .version v => toString v.number
  | v => v.quoted

mutual

/-- Whether the whole numbers inside a value, keys included, are short enough for a text. -/
def hasText : Value → Bool
  | .int i => Decimal.hasText i
  | .list xs => eachHasText xs
  | .tuple xs => eachHasText xs
  | .dict es => entriesHaveText es
  | _ => true

def eachHasText : List Value → Bool
  | [] => true
  | x :: xs => x.hasText && eachHasText xs

def entriesHaveText : List (Value × Value) → Bool
  | [] => true
  | (k, v) :: es => k.hasText && v.hasText && entriesHaveText es

end

end Value

end TrustGate
