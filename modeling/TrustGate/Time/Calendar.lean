import TrustGate.Decimal.Binary64
import TrustGate.Text.Class

/-!
# Calendar times

Civil dates and times of day, with an optional distance from universal time, on
the proleptic Gregorian calendar.  `daysBefore` counts days from 1 January 1970;
`civil` is its inverse.
-/

namespace TrustGate.Time

open Text

def isLeap (year : Nat) : Bool := year % 4 == 0 && (year % 100 != 0 || year % 400 == 0)

def daysInMonth (year month : Nat) : Nat :=
  if month = 2 then (if isLeap year then 29 else 28)
  else if month = 4 ∨ month = 6 ∨ month = 9 ∨ month = 11 then 30
  else 31

structure Date where
  year : Nat
  month : Nat
  day : Nat
  deriving DecidableEq, Repr, Inhabited

def Date.isValid (d : Date) : Bool :=
  decide (1 ≤ d.month) && decide (d.month ≤ 12) && decide (1 ≤ d.day) &&
    decide (d.day ≤ daysInMonth d.year d.month)

structure Clock where
  hour : Nat
  minute : Nat
  second : Nat
  micro : Nat
  deriving DecidableEq, Repr, Inhabited

def Clock.isValid (c : Clock) : Bool :=
  decide (c.hour ≤ 23) && decide (c.minute ≤ 59) && decide (c.second ≤ 59)

/-- Microseconds since midnight. -/
def Clock.micros (c : Clock) : Nat :=
  ((c.hour * 60 + c.minute) * 60 + c.second) * 1000000 + c.micro

/-- A date and time of day; `offset` is the distance from universal time in microseconds. -/
structure DateTime where
  date : Date
  clock : Clock
  offset : Option Int
  deriving DecidableEq, Repr, Inhabited

/-- Days from 1 January 1970 to a date; years are counted from March, so that the leap day is the
last of its year. -/
def Date.daysSinceEpoch (d : Date) : Int :=
  let year : Int := if d.month ≤ 2 then (d.year : Int) - 1 else d.year
  let era := year / 400
  let yearOfEra := year % 400
  let shifted : Int := (d.month + 9) % 12
  let dayOfYear := (153 * shifted + 2) / 5 + d.day - 1
  era * 146097 + yearOfEra * 365 + yearOfEra / 4 - yearOfEra / 100 + dayOfYear - 719468

/-- The year, month and day of a number of days from 1 January 1970. -/
def civil (days : Int) : Int × Nat × Nat :=
  let z := days + 719468
  let era := z / 146097
  let dayOfEra := z % 146097
  let yearOfEra := (dayOfEra - dayOfEra / 1460 + dayOfEra / 36524 - dayOfEra / 146096) / 365
  let dayOfYear := dayOfEra - (365 * yearOfEra + yearOfEra / 4 - yearOfEra / 100)
  let shifted := (5 * dayOfYear + 2) / 153
  let day := dayOfYear - (153 * shifted + 2) / 5 + 1
  let month := if shifted < 10 then shifted + 3 else shifted - 9
  let year := yearOfEra + era * 400 + (if month ≤ 2 then 1 else 0)
  (year, month.toNat, day.toNat)

/-- Microseconds since the epoch, a time without an offset being taken as universal time. -/
def DateTime.epochMicros (t : DateTime) : Int :=
  t.date.daysSinceEpoch * 86400000000 + t.clock.micros - t.offset.getD 0

def Clock.ofMicros (n : Nat) : Clock :=
  let seconds := n / 1000000
  ⟨seconds / 3600, seconds / 60 % 60, seconds % 60, n % 1000000⟩

/-- The universal time a number of microseconds after the epoch, or its year if that is not
between 1 and 9999. -/
def DateTime.ofEpochMicros (micros : Int) : Except Int DateTime :=
  let (year, month, day) := civil (micros / 86400000000)
  if year < 1 ∨ 9999 < year then .error year
  else .ok ⟨⟨year.toNat, month, day⟩, Clock.ofMicros (micros % 86400000000).toNat, some 0⟩

/-- The same instant in universal time, without an offset. -/
def DateTime.universal (t : DateTime) : DateTime :=
  match DateTime.ofEpochMicros t.epochMicros with
  | .ok u => { u with offset := none }
  | .error _ => { t with offset := none }

/-- Microseconds since the epoch of a time in seconds.  Only the part behind the point is rounded:
to a double once multiplied by a million, and from there to the nearest microsecond, a tie going to
the even one. -/
def microsOfSeconds? (x : Float) : Option Int :=
  match Decimal.parts x with
  | .finite negative m q =>
    let seconds := Decimal.Ratio.dyadic m q
    let rest := Decimal.nearest false (seconds.num % seconds.den * 1000000) seconds.den
    match Decimal.parts rest with
    | .finite _ m q =>
      let rest := Decimal.Ratio.dyadic m q
      let micros : Int :=
        (seconds.num / seconds.den * 1000000 + Decimal.roundHalfEven rest.num rest.den : Nat)
      some (if negative then -micros else micros)
    | _ => none
  | _ => none

/-! ## Text -/

def padded (width n : Nat) : List Char :=
  let ds := Nat.toDigits 10 n
  List.replicate (width - ds.length) '0' ++ ds

def Date.text (d : Date) : List Char :=
  padded 4 d.year ++ '-' :: padded 2 d.month ++ '-' :: padded 2 d.day

def Clock.secondsText (c : Clock) : List Char :=
  padded 2 c.hour ++ ':' :: padded 2 c.minute ++ ':' :: padded 2 c.second

/-- The time of day; six decimals of a second if there are any. -/
def Clock.text (c : Clock) : List Char :=
  c.secondsText ++ (if c.micro = 0 then [] else '.' :: padded 6 c.micro)

/-- An offset such as `+02:00`, with seconds and microseconds only where there are some. -/
def offsetText (offset : Int) : List Char :=
  let c := Clock.ofMicros offset.natAbs
  (if offset < 0 then '-' else '+') :: (padded 2 c.hour ++ ':' :: padded 2 c.minute ++
    (if c.second = 0 ∧ c.micro = 0 then []
     else ':' :: padded 2 c.second ++ (if c.micro = 0 then [] else '.' :: padded 6 c.micro)))

/-- The ISO 8601 text of a time, with the given character between date and time of day. -/
def DateTime.text (separator : Char) (t : DateTime) : String :=
  String.ofList (t.date.text ++ separator :: t.clock.text ++ (t.offset.map offsetText).getD [])

/-- The ISO 8601 text with exactly three decimals of a second, the rest cut off. -/
def DateTime.millisText (t : DateTime) : String :=
  String.ofList (t.date.text ++ 'T' :: t.clock.secondsText ++ '.' ::
    padded 3 (t.clock.micro / 1000) ++ (t.offset.map offsetText).getD [])

/-! ## Reading -/

/-- A number of exactly `width` digits at the front. -/
def takeNumber? (width : Nat) (cs : List Char) : Option (Nat × List Char) :=
  let ds := cs.take width
  if ds.length = width ∧ ds.all Char.isDigit then
    some (ds.foldl (fun n c => n * 10 + (c.toNat - 48)) 0, cs.drop width)
  else none

def takeChar? (c : Char) : List Char → Option (List Char)
  | d :: cs => if c = d then some cs else none
  | [] => none

/-- The decimals of a second: six count, further ones are dropped. -/
def takeFraction (cs : List Char) : Nat × List Char :=
  let ds := cs.takeWhile Char.isDigit
  let six := ds.take 6 ++ List.replicate (6 - ds.length) '0'
  (six.foldl (fun n c => n * 10 + (c.toNat - 48)) 0, cs.drop ds.length)

/-- A date such as `2024-01-31`. -/
def takeDate? (cs : List Char) : Option (Date × List Char) := do
  let (year, cs) ← takeNumber? 4 cs
  let cs ← takeChar? '-' cs
  let (month, cs) ← takeNumber? 2 cs
  let cs ← takeChar? '-' cs
  let (day, cs) ← takeNumber? 2 cs
  return (⟨year, month, day⟩, cs)

/-- A time of day `hh:mm`, `hh:mm:ss` or with decimals. -/
def takeClock? (cs : List Char) : Option (Clock × List Char) := do
  let (hour, cs) ← takeNumber? 2 cs
  let some cs := takeChar? ':' cs | return (⟨hour, 0, 0, 0⟩, cs)
  let (minute, cs) ← takeNumber? 2 cs
  let some cs := takeChar? ':' cs | return (⟨hour, minute, 0, 0⟩, cs)
  let (second, cs) ← takeNumber? 2 cs
  match cs with
  | '.' :: d :: rest =>
    if d.isDigit then
      let (micro, rest) := takeFraction (d :: rest)
      return (⟨hour, minute, second, micro⟩, rest)
    else return (⟨hour, minute, second, 0⟩, cs)
  | _ => return (⟨hour, minute, second, 0⟩, cs)

/-- The offset at the end of a time: nothing, `Z`, or a signed distance. -/
def readOffset? : List Char → Option (Option Int)
  | [] => some none
  | ['Z'] => some (some 0)
  | sign :: cs =>
    match takeClock? cs with
    | some (c, []) =>
      if sign = '+' then some (some c.micros)
      else if sign = '-' then some (some (-(c.micros : Int)))
      else none
    | _ => none

/-- Reads an ISO 8601 time; the time of day and the offset may be missing. -/
def DateTime.read? (text : String) : Option DateTime := do
  let (date, cs) ← takeDate? text.toList
  if !date.isValid || date.year == 0 then none
  else
    match cs with
    | [] => return ⟨date, ⟨0, 0, 0, 0⟩, none⟩
    | _ :: cs =>
      let (clock, cs) ← takeClock? cs
      let offset ← readOffset? cs
      if clock.isValid then return ⟨date, clock, offset⟩ else none

end TrustGate.Time
