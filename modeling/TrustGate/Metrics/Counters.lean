import TrustGate.Value.Basic

/-!
# Counters and their exposition

Two counters: connection attempts by outcome, and trust decisions by what was
decided.  Labels appear in the order of their first use.  The exposition is a text of
lines, two that describe a counter and one for each of its labels.
-/

namespace TrustGate.Metrics

/-- How an attempt to connect ended. -/
inductive Outcome where
  | connected
  | timeout
  | unresolved
  | error
  deriving DecidableEq, Repr

def Outcome.label : Outcome → String
  | .connected => "connected"
  | .timeout => "timeout"
  | .unresolved => "unresolved"
  | .error => "error"

/-- What the chain validators of a connection decided. -/
inductive Decision where
  | accepted
  | rejected
  deriving DecidableEq, Repr

def Decision.label : Decision → String
  | .accepted => "accepted"
  | .rejected => "rejected"

/-- How often each label was counted, in the order of first use. -/
abbrev Samples := List (String × Nat)

/-- Counts a label once more. -/
def Samples.add (label : String) : Samples → Samples
  | [] => [(label, 1)]
  | (l, n) :: rest => if l = label then (l, n + 1) :: rest else (l, n) :: Samples.add label rest

/-- How often a label was counted. -/
def Samples.count (s : Samples) (label : String) : Nat := (s.lookup label).getD 0

/-- Counting a label adds one to its count. -/
theorem Samples.count_add_self (label : String) (s : Samples) :
    (s.add label).count label = s.count label + 1 := by
  induction s with
  | nil => simp [Samples.add, Samples.count]
  | cons entry rest ih =>
    obtain ⟨l, n⟩ := entry
    by_cases h : l = label
    · simp [Samples.add, Samples.count, h]
    · have h' : (label == l) = false := by simpa using fun e => h e.symm
      simpa [Samples.add, Samples.count, h, List.lookup_cons, h'] using ih

/-- Counting a label leaves the counts of all others alone. -/
theorem Samples.count_add_of_ne {label other : String} (s : Samples) (h : other ≠ label) :
    (s.add label).count other = s.count other := by
  induction s with
  | nil =>
    have h' : (other == label) = false := by simpa using h
    simp [Samples.add, Samples.count, List.lookup_cons, h']
  | cons entry rest ih =>
    obtain ⟨l, n⟩ := entry
    by_cases hl : l = label
    · subst hl
      have h' : (other == l) = false := by simpa using h
      simp [Samples.add, Samples.count, List.lookup_cons, h']
    · by_cases ho : other = l
      · simp [Samples.add, Samples.count, hl, ho]
      · have h' : (other == l) = false := by simpa using ho
        simpa [Samples.add, Samples.count, hl, List.lookup_cons, h'] using ih

structure Counters where
  connections : Samples
  decisions : Samples
  deriving DecidableEq, Repr

namespace Counters

def empty : Counters := ⟨[], []⟩

def addConnection (c : Counters) (label : String) : Counters :=
  { c with connections := c.connections.add label }

def addDecision (c : Counters) (label : String) : Counters :=
  { c with decisions := c.decisions.add label }

/-! ## Exposition -/

/-- A backslash, a line break or a quote inside a label. -/
def escapeLabel (c : Char) : List Char :=
  if c = '\\' then ['\\', '\\']
  else if c = '\n' then ['\\', 'n']
  else if c = '"' then ['\\', '"']
  else [c]

/-- What the exposition says of one counter. -/
structure Family where
  name : String
  help : String
  labelName : String

def connectionFamily : Family :=
  ⟨"sslfactory_connections_total", "TLS client connection attempts by outcome", "outcome"⟩

def decisionFamily : Family :=
  ⟨"sslfactory_trust_decisions_total", "Chain validator decisions taken during TLS handshakes",
    "decision"⟩

def Family.sample (f : Family) (label : String) (n : Nat) : String :=
  f.name ++ "\x7b" ++ f.labelName ++ "=\"" ++ String.ofList (label.toList.flatMap escapeLabel) ++
    "\"\x7d " ++ Decimal.Layout.plain.text (Decimal.ofInt n) ++ "\n"

def Family.text (f : Family) (s : Samples) : String :=
  "# HELP " ++ f.name ++ " " ++ f.help ++ "\n# TYPE " ++ f.name ++ " counter\n" ++
    String.join (s.map fun (label, n) => f.sample label n)

/-- The exposition of both counters. -/
def exposition (c : Counters) : String :=
  connectionFamily.text c.connections ++ decisionFamily.text c.decisions

def contentType : String := "text/plain; version=1.0.0; charset=utf-8"

end Counters

end TrustGate.Metrics
