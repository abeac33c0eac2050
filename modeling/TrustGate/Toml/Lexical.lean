import TrustGate.Value.Basic
import TrustGate.Decimal.Reader

/-!
# TOML: the words of a document

Keys, strings, numbers and times.  Each function takes what it reads from the front
of the text and returns the rest, or nothing if the text is malformed.
-/

namespace TrustGate.Toml

open Text

def isSpace (c : Char) : Bool := c = ' ' || c = '\t'

def isSpaceOrNewline (c : Char) : Bool := isSpace c || c = '\n'

def isBareKeyChar (c : Char) : Bool := c.isAlphanum || c = '-' || c = '_'

def isControl (c : Char) : Bool := c.toNat < 32 || c.toNat = 127

/-- Characters that neither strings of one line nor comments may hold. -/
def isIllegal (c : Char) : Bool := isControl c && c ≠ '\t'

/-- Characters that no string may hold. -/
def isIllegalInLines (c : Char) : Bool := isIllegal c && c ≠ '\n'

def skipSpace (cs : List Char) : List Char := cs.dropWhile isSpace

/-- A comment up to the end of its line, if one stands here. -/
def skipComment? : List Char → Option (List Char)
  | '#' :: cs =>
    let comment := cs.takeWhile (· ≠ '\n')
    if comment.any isIllegal then none else some (cs.drop comment.length)
  | cs => some cs

/-- Blanks, line breaks and comments. -/
def skipGap? : (fuel : Nat) → List Char → Option (List Char)
  | 0, cs => some cs
  | fuel + 1, cs => do
    let after := cs.dropWhile isSpaceOrNewline
    let rest ← skipComment? after
    if rest.length = cs.length then return cs else skipGap? fuel rest

/-! ## Strings -/

/-- A character by its number in hexadecimal; surrogates are no characters. -/
def takeCodePoint? (width : Nat) (cs : List Char) : Option (Char × List Char) := do
  let ds ← (cs.take width).mapM hexDigit?
  let n := ds.foldl (fun n d => n * 16 + d) 0
  if ds.length = width ∧ n.isValidChar then return (Char.ofNat n, cs.drop width) else none

/-- The character that an escape of one letter stands for. -/
def simpleEscape? (c : Char) : Option Char :=
  if c = 'b' then some (Char.ofNat 8)
  else if c = 't' then some '\t'
  else if c = 'n' then some '\n'
  else if c = 'f' then some (Char.ofNat 12)
  else if c = 'r' then some '\r'
  else if c = '"' then some '"'
  else if c = '\\' then some '\\'
  else none

/-- What follows a backslash: a character, or nothing if it joins two lines. -/
def takeEscape? (multiline : Bool) : List Char → Option (Option Char × List Char)
  | 'u' :: cs => (takeCodePoint? 4 cs).map fun (c, cs) => (some c, cs)
  | 'U' :: cs => (takeCodePoint? 8 cs).map fun (c, cs) => (some c, cs)
  | c :: cs =>
    if multiline && isSpaceOrNewline c then
      match skipSpace (c :: cs) with
      | [] => some (none, [])
      | '\n' :: cs => some (none, cs.dropWhile isSpaceOrNewline)
      | _ => none
    else (simpleEscape? c).map fun c => (some c, cs)
  | [] => none

/-- The rest of a string in double quotes. -/
def takeBasic? (multiline : Bool) : (fuel : Nat) → List Char → Option (List Char × List Char)
  | 0, _ => none
  | fuel + 1, cs =>
    match cs with
    | [] => none
    | '\\' :: cs => do
      let (c, cs) ← takeEscape? multiline cs
      let (s, cs) ← takeBasic? multiline fuel cs
      return (c.toList ++ s, cs)
    | '"' :: rest =>
      if !multiline then some ([], rest)
      else
        match rest with
        | '"' :: '"' :: rest => some ([], rest)
        | _ => (takeBasic? multiline fuel rest).map fun (s, cs) => ('"' :: s, cs)
    | c :: rest =>
      if (if multiline then isIllegalInLines c else isIllegal c) then none
      else (takeBasic? multiline fuel rest).map fun (s, cs) => (c :: s, cs)

/-- The rest of a string in single quotes. -/
def takeLiteral? (cs : List Char) : Option (List Char × List Char) :=
  let s := cs.takeWhile (· ≠ '\'')
  match cs.drop s.length with
  | _ :: rest => if s.any isIllegal then none else some (s, rest)
  | [] => none

/-- The rest of a string in three single quotes. -/
def takeLiteralLines? : List Char → Option (List Char × List Char)
  | '\'' :: '\'' :: '\'' :: rest => some ([], rest)
  | c :: rest =>
    if isIllegalInLines c then none
    else (takeLiteralLines? rest).map fun (s, cs) => (c :: s, cs)
  | [] => none

/-- One or two quotes directly after the closing three belong to the string. -/
def takeExtraQuotes (quote : Char) (s : List Char) : List Char → List Char × List Char
  | c :: d :: rest =>
    if c = quote ∧ d = quote then (s ++ [quote, quote], rest)
    else if c = quote then (s ++ [quote], d :: rest)
    else (s, c :: d :: rest)
  | [c] => if c = quote then (s ++ [quote], []) else (s, [c])
  | [] => (s, [])

/-- A line break directly after the opening quotes is not part of the string. -/
def dropFirstNewline : List Char → List Char
  | '\n' :: cs => cs
  | cs => cs

/-- A string of any of the four kinds. -/
def takeString? : List Char → Option (List Char × List Char)
  | '"' :: '"' :: '"' :: cs =>
    let cs := dropFirstNewline cs
    (takeBasic? true (cs.length + 1) cs).map fun (s, cs) => takeExtraQuotes '"' s cs
  | '"' :: cs => takeBasic? false (cs.length + 1) cs
  | '\'' :: '\'' :: '\'' :: cs =>
    (takeLiteralLines? (dropFirstNewline cs)).map fun (s, cs) => takeExtraQuotes '\'' s cs
  | '\'' :: cs => takeLiteral? cs
  | _ => none

/-! ## Keys -/

def takeKeyPart? : List Char → Option (String × List Char)
  | '"' :: cs => (takeBasic? false (cs.length + 1) cs).map fun (s, cs) => (String.ofList s, cs)
  | '\'' :: cs => (takeLiteral? cs).map fun (s, cs) => (String.ofList s, cs)
  | cs =>
    let bare := cs.takeWhile isBareKeyChar
    if bare.isEmpty then none else some (String.ofList bare, cs.drop bare.length)

/-- A key: parts joined by dots, with blanks around them. -/
def takeKey? : (fuel : Nat) → List Char → Option (List String × List Char)
  | 0, _ => none
  | fuel + 1, cs => do
    let (part, cs) ← takeKeyPart? cs
    match skipSpace cs with
    | '.' :: cs =>
      let (parts, cs) ← takeKey? fuel (skipSpace cs)
      return (part :: parts, cs)
    | cs => return ([part], cs)

/-! ## Numbers -/

/-- Digits of a base with single underscores between them, the first one given. -/
def takeGrouped (isDigit : Char → Bool) : List Char → List Char × List Char
  | '_' :: c :: rest =>
    if isDigit c then
      let (ds, rest) := takeGrouped isDigit rest
      (c :: ds, rest)
    else ([], '_' :: c :: rest)
  | c :: rest =>
    if isDigit c then
      let (ds, rest) := takeGrouped isDigit rest
      (c :: ds, rest)
    else ([], c :: rest)
  | [] => ([], [])

/-- At least one digit of a base. -/
def takeGroup? (isDigit : Char → Bool) : List Char → Option (List Char × List Char)
  | c :: rest =>
    if isDigit c then
      let (ds, rest) := takeGrouped isDigit rest
      some (c :: ds, rest)
    else none
  | [] => none

def digitsValue (base : Nat) (ds : List Char) : Nat :=
  ds.foldl (fun n c => n * base + (hexDigit? c).getD 0) 0

def isOctal (c : Char) : Bool := '0' ≤ c && c ≤ '7'

/-- A whole number in another base after its mark. -/
def takeBased? : List Char → Option (Value × List Char)
  | '0' :: mark :: cs =>
    let based (base : Nat) (isDigit : Char → Bool) : Option (Value × List Char) :=
      (takeGroup? isDigit cs).map fun (ds, rest) => (.int (digitsValue base ds), rest)
    if mark = 'x' then based 16 (fun c => (hexDigit? c).isSome)
    else if mark = 'o' then based 8 isOctal
    else if mark = 'b' then based 2 (fun c => c = '0' || c = '1')
    else none
  | _ => none

/-- The whole part of a number: zero alone, or digits that do not start with zero. -/
def takeWholePart? : List Char → Option (List Char × List Char)
  | '0' :: cs => some (['0'], cs)
  | cs => takeGroup? Char.isDigit cs

def takeFractionPart : List Char → List Char × List Char
  | '.' :: cs => (takeGroup? Char.isDigit cs).getD ([], '.' :: cs)
  | cs => ([], cs)

def takeExponentPart (cs : List Char) : Option Int × List Char :=
  match cs with
  | c :: rest =>
    if c = 'e' ∨ c = 'E' then
      let (negative, body) := Decimal.takeSign rest
      match takeGroup? Char.isDigit body with
      | some (ds, rest) =>
        let n : Int := digitsValue 10 ds
        (some (if negative then -n else n), rest)
      | none => (none, cs)
    else (none, cs)
  | [] => (none, [])

/-- A decimal number, whole or not. -/
def takeDecimal? (cs : List Char) : Option (Value × List Char) := do
  let (negative, cs) := Decimal.takeSign cs
  let (whole, cs) ← takeWholePart? cs
  let (fraction, cs) := takeFractionPart cs
  let (exponent, cs) := takeExponentPart cs
  if fraction.isEmpty ∧ exponent.isNone then
    let n : Int := digitsValue 10 whole
    return (.int (if negative then -n else n), cs)
  else
    let mantissa := digitsValue 10 (whole ++ fraction)
    let x := Decimal.ofScientific negative mantissa (exponent.getD 0 - fraction.length)
    return (.float x, cs)

def takeWord? (word : String) (v : Value) (cs : List Char) : Option (Value × List Char) :=
  if word.toList.isPrefixOf cs then some (v, cs.drop word.length) else none

/-- Infinity and NaN, perhaps with a sign. -/
def takeSpecial? (cs : List Char) : Option (Value × List Char) :=
  (takeWord? "inf" (.float Decimal.infinity) cs).orElse fun _ =>
  (takeWord? "+inf" (.float Decimal.infinity) cs).orElse fun _ =>
  (takeWord? "-inf" (.float Decimal.negativeInfinity) cs).orElse fun _ =>
  (takeWord? "nan" (.float Decimal.notANumber) cs).orElse fun _ =>
  (takeWord? "+nan" (.float Decimal.notANumber) cs).orElse fun _ =>
  takeWord? "-nan" (.float Decimal.notANumber) cs

def takeNumber? (cs : List Char) : Option (Value × List Char) :=
  (takeBased? cs).orElse fun _ => (takeDecimal? cs).orElse fun _ => takeSpecial? cs

/-! ## Times -/

/-- A time of day with seconds. -/
def takeClock? (cs : List Char) : Option (Time.Clock × List Char) := do
  let (hour, cs) ← Time.takeNumber? 2 cs
  let cs ← Time.takeChar? ':' cs
  let (minute, cs) ← Time.takeNumber? 2 cs
  let cs ← Time.takeChar? ':' cs
  let (second, cs) ← Time.takeNumber? 2 cs
  if 23 < hour ∨ 59 < minute ∨ 59 < second then none
  else
    match cs with
    | '.' :: d :: rest =>
      if d.isDigit then
        let (micro, rest) := Time.takeFraction (d :: rest)
        return (⟨hour, minute, second, micro⟩, rest)
      else return (⟨hour, minute, second, 0⟩, cs)
    | _ => return (⟨hour, minute, second, 0⟩, cs)

/-- A distance from universal time, if one stands here. -/
def takeOffset (cs : List Char) : Option Int × List Char :=
  match cs with
  | c :: rest =>
    if c = 'Z' ∨ c = 'z' then (some 0, rest)
    else if c = '+' ∨ c = '-' then
      let distance : Option (Nat × Nat × List Char) := do
        let (hour, rest) ← Time.takeNumber? 2 rest
        let rest ← Time.takeChar? ':' rest
        let (minute, rest) ← Time.takeNumber? 2 rest
        if 23 < hour ∨ 59 < minute then none else return (hour, minute, rest)
      match distance with
      | some (hour, minute, rest) =>
        let micros : Int := (hour * 60 + minute) * 60000000
        (some (if c = '-' then -micros else micros), rest)
      | none => (none, cs)
    else (none, cs)
  | [] => (none, [])

/-- A date with plausible numbers, which need not exist. -/
def takeDate? (cs : List Char) : Option (Time.Date × List Char) := do
  let (date, cs) ← Time.takeDate? cs
  if date.month = 0 ∨ 12 < date.month ∨ date.day = 0 ∨ 31 < date.day then none
  else return (date, cs)

/-- The time after a date, if one stands here. -/
def takeClockAfterDate? : List Char → Option (Time.Clock × List Char)
  | c :: cs => if c = 'T' ∨ c = 't' ∨ c = ' ' then takeClock? cs else none
  | [] => none

/-- A date, a time, or both; `none` if none stands here, and an inner `none` if the date does not
exist. -/
def takeTime? (cs : List Char) : Option (Option (Value × List Char)) :=
  match takeDate? cs with
  | some (date, cs) =>
    if !date.isValid || date.year == 0 then some none
    else
      match takeClockAfterDate? cs with
      | some (clock, cs) =>
        let (offset, cs) := takeOffset cs
        some (some (.dateTime ⟨date, clock, offset⟩, cs))
      | none => some (some (.date date, cs))
  | none => (takeClock? cs).map fun (clock, cs) => some (.clock clock, cs)

end TrustGate.Toml
