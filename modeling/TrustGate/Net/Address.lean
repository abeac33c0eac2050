import TrustGate.Text.Class

/-!
# IP addresses

Version 4 addresses are four decimal numbers without leading zeros.  Version 6
addresses are eight groups of hexadecimal digits, a run of zero groups being
written `::` at most once, the last two groups possibly as a version 4 address,
and perhaps a scope after a percent sign.

    IpAddress.read?    the address that a text writes
    IpAddress.text     its one written form: no leading zeros, the longest run of zero groups cut
-/

namespace TrustGate.Net

open Text

inductive IpAddress where
  | v4 (number : Nat)
  | v6 (number : Nat) (scope : Option String)
  deriving DecidableEq, Repr

/-- Splits at every occurrence of a character. -/
def splitAt (separator : Char) : List Char → List (List Char)
  | [] => [[]]
  | c :: cs =>
    if c = separator then [] :: splitAt separator cs
    else
      match splitAt separator cs with
      | part :: parts => (c :: part) :: parts
      | [] => [[c]]

theorem splitAt_ne_nil (separator : Char) (cs : List Char) : splitAt separator cs ≠ [] := by
  induction cs with
  | nil => simp [splitAt]
  | cons c cs ih =>
    rw [splitAt]
    split
    · simp
    · split <;> simp

/-- The parts with the separator between them are the whole again. -/
theorem intercalate_splitAt (separator : Char) (cs : List Char) :
    [separator].intercalate (splitAt separator cs) = cs := by
  induction cs with
  | nil => rfl
  | cons c cs ih =>
    obtain ⟨part, parts, h⟩ := List.exists_cons_of_ne_nil (splitAt_ne_nil separator cs)
    rw [h] at ih
    by_cases hc : c = separator
    · simpa [splitAt, hc, h, List.intercalate] using ih
    · cases parts <;> simpa [splitAt, hc, h, List.intercalate] using ih

/-- One of the four numbers of a version 4 address. -/
def readOctet? (cs : List Char) : Option Nat :=
  if cs.isEmpty || !cs.all Char.isDigit || decide (3 < cs.length) then none
  else if cs.head? = some '0' ∧ cs.length ≠ 1 then none
  else
    let n := cs.foldl (fun n c => n * 10 + (c.toNat - 48)) 0
    if n ≤ 255 then some n else none

def readV4? (cs : List Char) : Option Nat :=
  match (splitAt '.' cs).map readOctet? with
  | [some a, some b, some c, some d] => some (((a * 256 + b) * 256 + c) * 256 + d)
  | _ => none

/-- One group of a version 6 address. -/
def readGroup? (cs : List Char) : Option Nat :=
  if cs.isEmpty || decide (4 < cs.length) then none
  else (cs.mapM hexDigit?).map (·.foldl (fun n d => n * 16 + d) 0)

/-- The groups of a version 6 address as texts, a version 4 address at the end taken as two. -/
def groupTexts? (cs : List Char) : Option (List (List Char)) :=
  let parts := splitAt ':' cs
  if parts.length < 3 then none
  else
    let last := parts.getLastD []
    if last.contains '.' then
      match readV4? last with
      | some n => some (parts.dropLast ++ [hex 1 (n / 65536), hex 1 (n % 65536)])
      | none => none
    else some parts

/-- The positions of the empty groups other than the first and the last. -/
def innerGaps (parts : List (List Char)) : List Nat :=
  (List.range parts.length).filter fun i =>
    decide (0 < i) && decide (i + 1 < parts.length) && (parts.getD i []).isEmpty

/-- Groups before and after a gap: a missing group at the outer end is allowed only next to it. -/
def outerGroups? (parts : List (List Char)) : Option (List Nat) :=
  match parts with
  | [[]] => some []
  | parts => parts.mapM readGroup?

def ofGroups (gs : List Nat) : Nat := gs.foldl (fun n g => n * 65536 + g) 0

def readV6? (cs : List Char) : Option Nat := do
  let parts ← groupTexts? cs
  if 9 < parts.length then none
  else
    match innerGaps parts with
    | [] =>
      let groups ← parts.mapM readGroup?
      if groups.length = 8 then some (ofGroups groups) else none
    | [gap] =>
      let high ← outerGroups? (parts.take gap)
      let low ← outerGroups? (parts.drop (gap + 1))
      if high.length + low.length < 8 then
        some (ofGroups (high ++ List.replicate (8 - high.length - low.length) 0 ++ low))
      else none
    | _ => none

/-- The address and the scope of a version 6 text; a scope has no second percent sign. -/
def splitScope? (cs : List Char) : Option (List Char × Option String) :=
  let address := cs.takeWhile (· ≠ '%')
  match cs.drop address.length with
  | [] => some (address, none)
  | _ :: scope =>
    if scope.isEmpty || scope.contains '%' then none
    else some (address, some (String.ofList scope))

/-- Reads an address. -/
def IpAddress.read? (text : String) : Option IpAddress :=
  let cs := text.toList
  if cs.contains '/' then none
  else
    match readV4? cs with
    | some n => some (.v4 n)
    | none =>
      match splitScope? cs with
      | some (address, scope) => (readV6? address).map (.v6 · scope)
      | none => none

/-! ## Writing -/

def dotted (n : Nat) : String :=
  String.intercalate "."
    ([n / 16777216 % 256, n / 65536 % 256, n / 256 % 256, n % 256].map toString)

def groups (n : Nat) : List Nat := (List.range 8).map fun i => n / Nat.pow 65536 (7 - i) % 65536

/-- The number of zero groups from each position on. -/
def zeroRuns : List Nat → List Nat
  | [] => []
  | g :: gs =>
    let runs := zeroRuns gs
    (if g = 0 then runs.headD 0 + 1 else 0) :: runs

/-- The first longest run of at least two zero groups: its start and length. -/
def longestRun? (gs : List Nat) : Option (Nat × Nat) :=
  let runs := zeroRuns gs
  let longest := runs.foldl max 0
  if longest < 2 then none else (runs.findIdx? (· = longest)).map (·, longest)

def colons (gs : List Nat) : String :=
  String.intercalate ":" (gs.map fun g => String.ofList (hex 1 g))

def compressed (n : Nat) : String :=
  let gs := groups n
  match longestRun? gs with
  | some (start, length) => colons (gs.take start) ++ "::" ++ colons (gs.drop (start + length))
  | none => colons gs

/-- The written form of an address. -/
def IpAddress.text : IpAddress → String
  | .v4 n => dotted n
  | .v6 n none => compressed n
  | .v6 n (some scope) => compressed n ++ "%" ++ scope

end TrustGate.Net
