import TrustGate.Text.Points
import TrustGate.Decimal.Rounded

/-!
# Message templates

A template is text with places such as `%s`, `%-8d` or `%(name).3f`.  Arguments
are a list, taken in order and all of them, or a mapping, from which named places
take theirs.

    %s %r %a     a value as text, quoted, or quoted in ASCII
    %d %i %u     a whole number
    %o %x %X     a whole number in base eight or sixteen
    %e %f %g     a decimal number, with a capital letter in capitals
    %c           one code point
    %%           a percent sign

Texts and whole numbers in base ten are subject to the limit on digits.
-/

namespace TrustGate.Template

open Text

inductive TemplateFault where
  | incomplete
  | incompleteKey
  | needsMapping
  | tooFewArguments
  | tooManyArguments
  | widthNotInt
  | widthTooLarge
  | precisionTooLarge
  | givenWidthTooLarge
  | givenPrecisionTooLarge
  | notANumber (conversion : Char) (typeName : String)
  | notWhole (conversion : Char) (typeName : String)
  | notReal (typeName : String)
  | notACharacter
  | characterRange
  | unsupported (conversion : Char) (index : Nat)
  | infinityToInt
  | nanToInt
  | tooLargeForFloat
  deriving DecidableEq, Repr

instance : Cause TemplateFault where
  kind
    | .incomplete | .incompleteKey | .unsupported _ _ | .nanToInt | .widthTooLarge
    | .precisionTooLarge => .value
    | .infinityToInt | .tooLargeForFloat | .characterRange | .givenWidthTooLarge
    | .givenPrecisionTooLarge => .overflow
    | _ => .type
  message
    | .incomplete => "incomplete format"
    | .incompleteKey => "incomplete format key"
    | .needsMapping => "format requires a mapping"
    | .tooFewArguments => "not enough arguments for format string"
    | .tooManyArguments => "not all arguments converted during string formatting"
    | .widthNotInt => "* wants int"
    | .widthTooLarge => "width too big"
    | .precisionTooLarge => "precision too big"
    | .givenWidthTooLarge => "Python int too large to convert to C ssize_t"
    | .givenPrecisionTooLarge => "Python int too large to convert to C int"
    | .notANumber c t => "%" ++ c.toString ++ " format: a real number is required, not " ++ t
    | .notWhole c t => "%" ++ c.toString ++ " format: an integer is required, not " ++ t
    | .notReal t => "must be real number, not " ++ t
    | .notACharacter => "%c requires int or char"
    | .characterRange => "%c arg not in range(0x110000)"
    | .unsupported c i => "unsupported format character '" ++
        (if 31 ≤ c.toNat && c.toNat ≤ 126 then c.toString else "?") ++ "' (0x" ++
        String.ofList (hex 1 c.toNat) ++ ") at index " ++ toString i
    | .infinityToInt => "cannot convert float infinity to integer"
    | .nanToInt => "cannot convert float NaN to integer"
    | .tooLargeForFloat => "int too large to convert to float"

/-- What is left of the arguments. -/
structure Supply where
  left : List Value
  /-- The value that named places look into. -/
  mapping : Option Value

/-- A tuple is a list of arguments; any other value is the one argument, and a container also what
named places look into. -/
def Supply.of : Value → Supply
  | .tuple vs => ⟨vs, none⟩
  | .dict es => ⟨[.dict es], some (.dict es)⟩
  | .list vs => ⟨[.list vs], some (.list vs)⟩
  | .bytes bs => ⟨[.bytes bs], some (.bytes bs)⟩
  | v => ⟨[v], none⟩

def Supply.next (s : Supply) : Except Failure (Value × Supply) :=
  match s.left with
  | v :: vs => .ok (v, { s with left := vs })
  | [] => refuse TemplateFault.tooFewArguments

/-- The value of a named place. -/
def Supply.named (s : Supply) (key : String) : Except Failure Value :=
  match s.mapping with
  | some (.dict es) =>
    match es.find? fun (k, _) => k.sameKey (.text key) with
    | some (_, v) => .ok v
    | none => .error (.mk .key [.text key] none)
  | _ => refuse TemplateFault.needsMapping

/-! ## One place -/

structure Flags where
  left : Bool
  plus : Bool
  space : Bool
  alternate : Bool
  zero : Bool
  deriving DecidableEq, Repr

/-- A place of a template after its percent sign. -/
structure Place where
  flags : Flags
  width : Nat
  precision : Option Nat
  conversion : Char
  deriving DecidableEq, Repr

/-- Text in three parts: sign, base mark and digits; zeros go between mark and digits. -/
structure Written where
  sign : List Char
  mark : List Char
  body : List Point
  numeric : Bool

def Place.pad (p : Place) (w : Written) : List Point :=
  let front := (w.sign ++ w.mark).map Point.char
  let filling (c : Char) :=
    List.replicate (p.width - (front.length + w.body.length)) (Point.char c)
  if p.flags.left then front ++ w.body ++ filling ' '
  else if p.flags.zero && w.numeric then front ++ filling '0' ++ w.body
  else filling ' ' ++ front ++ w.body

def Place.signOf (p : Place) (negative : Bool) : List Char :=
  if negative then ['-'] else if p.flags.plus then ['+'] else if p.flags.space then [' '] else []

def Place.text (p : Place) (s : String) : Written :=
  let ps := points s
  ⟨[], [], (p.precision.map fun n => ps.take n).getD ps, false⟩

/-- A whole number in the base of the conversion. -/
def Place.whole (p : Place) (i : Int) : Written :=
  let (base, mark) :=
    if p.conversion = 'o' then (8, ['0', 'o'])
    else if p.conversion = 'x' then (16, ['0', 'x'])
    else if p.conversion = 'X' then (16, ['0', 'X'])
    else (10, [])
  let ds := Nat.toDigits base i.natAbs
  let ds := if p.conversion = 'X' then ds.map Char.toUpper else ds
  let ds := List.replicate (p.precision.getD 0 - ds.length) '0' ++ ds
  ⟨p.signOf (decide (i < 0)), if p.flags.alternate then mark else [], ds.map .char, true⟩

/-- A value as a whole number; a decimal number is cut towards zero. -/
def wholeOf (conversion : Char) (v : Value) : Except Failure Int :=
  match v with
  | .float x =>
    match Decimal.truncate? x with
    | some i => .ok i
    | none =>
      if x.isNaN then refuse TemplateFault.nanToInt else refuse TemplateFault.infinityToInt
  | v =>
    match v.integer? with
    | some i => .ok i
    | none => refuse (TemplateFault.notANumber conversion v.typeName)

/-- A whole number that is to be written in base ten. -/
def decimalOf (conversion : Char) (v : Value) : Except Failure Int := do
  let i ← wholeOf conversion v
  ifWritten (Decimal.hasText i) i

/-- A value that must be whole already. -/
def strictlyWhole (conversion : Char) (v : Value) : Except Failure Int :=
  match v.integer? with
  | some i => .ok i
  | none => refuse (TemplateFault.notWhole conversion v.typeName)

def realOf (v : Value) : Except Failure Float :=
  match v.toFloat? with
  | some x => .ok x
  | none =>
    match v.integer? with
    | some _ => refuse TemplateFault.tooLargeForFloat
    | none => refuse (TemplateFault.notReal v.typeName)

def formOf (conversion : Char) : Decimal.RoundedForm :=
  if conversion = 'e' ∨ conversion = 'E' then .scientific
  else if conversion = 'f' ∨ conversion = 'F' then .fixed
  else .general

def Place.real (p : Place) (x : Float) : Written :=
  let precision := p.precision.getD 6
  let cs := (formOf p.conversion).unsigned precision p.flags.alternate x
  let cs := if p.conversion.isUpper then cs.map Char.toUpper else cs
  ⟨p.signOf (Decimal.isNegative x), [], cs.map .char, true⟩

def Place.character (v : Value) : Except Failure Written :=
  match v with
  | .text s =>
    match s.toList with
    | [c] => .ok ⟨[], [], [.char c], false⟩
    | _ => refuse TemplateFault.notACharacter
  | v =>
    match v.integer? with
    | some i =>
      match i.toNat? >>= Point.ofNat? with
      | some c => .ok ⟨[], [], [c], false⟩
      | none => refuse TemplateFault.characterRange
    | none => refuse TemplateFault.notACharacter

/-- The text of a value in a place; `index` is where the conversion letter stands. -/
def Place.write (p : Place) (index : Nat) (v : Value) : Except Failure (List Point) := do
  let written ← match p.conversion with
    | 's' => p.text <$> v.shown?
    | 'r' => p.text <$> v.quoted?
    | 'a' => (p.text ∘ asciiOnly) <$> v.quoted?
    | 'd' | 'i' | 'u' => p.whole <$> decimalOf p.conversion v
    | 'o' | 'x' | 'X' => p.whole <$> strictlyWhole p.conversion v
    | 'e' | 'E' | 'f' | 'F' | 'g' | 'G' => p.real <$> realOf v
    | 'c' => Place.character v
    | c => refuse (TemplateFault.unsupported c index)
  return p.pad written

/-! ## Reading places -/

/-- The name in parentheses up to the matching one, and the rest. -/
def takeKey : (depth : Nat) → List Char → Option (List Char × List Char)
  | _, [] => none
  | depth, ')' :: cs =>
    match depth with
    | 0 => some ([], cs)
    | depth + 1 => (takeKey depth cs).map fun (k, cs) => (')' :: k, cs)
  | depth, c :: cs =>
    (takeKey (if c = '(' then depth + 1 else depth) cs).map fun (k, cs) => (c :: k, cs)

def takeFlags : Flags → List Char → Flags × List Char
  | f, '-' :: cs => takeFlags { f with left := true } cs
  | f, '+' :: cs => takeFlags { f with plus := true } cs
  | f, ' ' :: cs => takeFlags { f with space := true } cs
  | f, '#' :: cs => takeFlags { f with alternate := true } cs
  | f, '0' :: cs => takeFlags { f with zero := true } cs
  | f, cs => (f, cs)

def takeCount (cs : List Char) : Nat × List Char :=
  let ds := cs.takeWhile Char.isDigit
  (ds.foldl (fun n c => n * 10 + (c.toNat - 48)) 0, cs.drop ds.length)

/-- The bits of a width or precision, and what to say of one that has more. -/
structure CountLimit where
  bits : Nat
  tooLarge : TemplateFault
  givenTooLarge : TemplateFault

def widthLimit : CountLimit := ⟨63, .widthTooLarge, .givenWidthTooLarge⟩

def precisionLimit : CountLimit := ⟨31, .precisionTooLarge, .givenPrecisionTooLarge⟩

/-- A width or precision: digits, or a star that takes an argument. -/
def readCount (limit : CountLimit) (supply : Supply) :
    List Char → Except Failure (Int × Supply × List Char)
  | '*' :: cs => do
    let (v, supply) ← supply.next
    match v.integer? with
    | some i =>
      if -(Nat.pow 2 limit.bits : Int) ≤ i ∧ i < Nat.pow 2 limit.bits then return (i, supply, cs)
      else refuse limit.givenTooLarge
    | none => refuse TemplateFault.widthNotInt
  | cs =>
    let (n, cs) := takeCount cs
    if n < Nat.pow 2 limit.bits then .ok (n, supply, cs) else refuse limit.tooLarge

def noFlags : Flags := ⟨false, false, false, false, false⟩

/-- Fills the place after a percent sign that no other one follows: its text, the arguments left
and the rest of the template.  `total` is the length of the whole template. -/
def fillPlace (total : Nat) (supply : Supply) (cs : List Char) :
    Except Failure (List Point × Supply × List Char) := do
  let (key, cs) ← match cs with
    | '(' :: cs =>
      match takeKey 0 cs with
      | some (key, cs) => pure (some (String.ofList key), cs)
      | none =>
        refuse (if supply.mapping.isSome then TemplateFault.incompleteKey
          else TemplateFault.needsMapping)
    | cs => pure (none, cs)
  let supply ← match key with
    | some key => do
      let v ← supply.named key
      pure { supply with left := [v] }
    | none => pure supply
  let (flags, cs) := takeFlags noFlags cs
  let (width, supply, cs) ← readCount widthLimit supply cs
  let flags := if width < 0 then { flags with left := true } else flags
  let (precision, supply, cs) ← match cs with
    | '.' :: cs => do
      let (n, supply, cs) ← readCount precisionLimit supply cs
      pure (some n.toNat, supply, cs)
    | cs => pure (none, supply, cs)
  let cs := match cs with
    | 'h' :: cs | 'l' :: cs | 'L' :: cs => cs
    | cs => cs
  match cs with
  | [] => refuse TemplateFault.incomplete
  | c :: cs =>
    let (v, supply) ← supply.next
    let place : Place := ⟨flags, width.natAbs, precision, c⟩
    let text ← place.write (total - cs.length - 1) v
    return (text, supply, cs)

/-- Fills the places of a template; every place takes at least one character. -/
def fillFrom (total : Nat) : (fuel : Nat) → Supply → List Char → Except Failure (List Point)
  | 0, _, _ => .ok []
  | _, supply, [] =>
    if supply.left.isEmpty || supply.mapping.isSome then .ok []
    else refuse TemplateFault.tooManyArguments
  | fuel + 1, supply, '%' :: '%' :: cs => do
    let rest ← fillFrom total fuel supply cs
    return .char '%' :: rest
  | fuel + 1, supply, '%' :: cs => do
    let (text, supply, cs) ← fillPlace total supply cs
    let rest ← fillFrom total fuel supply cs
    return text ++ rest
  | fuel + 1, supply, c :: cs => do
    let rest ← fillFrom total fuel supply cs
    return .char c :: rest

/-- Fills a template. -/
def fill (template : String) (arguments : Value) : Except Failure (List Point) :=
  let cs := template.toList
  fillFrom cs.length (cs.length + 1) (Supply.of arguments) cs

end TrustGate.Template
