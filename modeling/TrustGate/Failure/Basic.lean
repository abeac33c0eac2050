import TrustGate.Failure.Kind

/-!
# Failures

A failure has a kind, arguments and perhaps the failure that led to it.  Its
message is made from the arguments: an operating-system failure with a number
and a text reads `[Errno 2] No such file`, an engine failure with a number and a
text is the text alone, a missing key is quoted.

The library's own failures come from a `Cause`: a type whose values say what went
wrong, with one kind and one message each.
-/

namespace TrustGate

inductive Failure where
  | mk (kind : FailureKind) (args : List Value) (cause : Option Failure)
  deriving Inhabited

namespace Failure

def kind : Failure → FailureKind
  | mk kind _ _ => kind

def args : Failure → List Value
  | mk _ args _ => args

def cause : Failure → Option Failure
  | mk _ _ cause => cause

/-- The text of an argument list: nothing, the one argument, or the quoted list. -/
def plainMessage : List Value → String
  | [] => ""
  | [v] => v.shown
  | vs => (Value.tuple vs).quoted

/-- The names that an operating-system failure concerns, among what follows its text. -/
def concerned : List Value → List Value
  | [] | .null :: _ => []
  | [name, _, .null] => [name]
  | [name, _, other] => [name, other]
  | name :: _ => [name]

/-- The names concerned, behind the text. -/
def concernedText (names : List Value) : String :=
  match concerned names with
  | [] => ""
  | name :: others =>
    ": " ++ name.quoted ++ String.join (others.map fun other => " -> " ++ other.quoted)

/-- Whether the arguments of an operating-system failure are a number, a text and perhaps names. -/
def isNumbered (args : List Value) : Bool := 2 ≤ args.length && args.length ≤ 5

/-- The message of an operating-system failure: number, text and the names concerned. -/
def systemMessage (args : List Value) : String :=
  match isNumbered args, args with
  | true, number :: text :: names =>
    "[Errno " ++ number.shown ++ "] " ++ text.shown ++ concernedText names
  | _, vs => plainMessage vs

/-- The message of an engine failure: its text, or all its arguments. -/
def engineMessage (args : List Value) : String :=
  match isNumbered args, args with
  | true, _ :: .text s :: _ => s
  | _, vs => (Value.tuple vs).quoted

def message (f : Failure) : String :=
  if f.kind.isSsl then engineMessage f.args
  else if f.kind.isOs then systemMessage f.args
  else
    match f.kind, f.args with
    | .key, [v] => v.quoted
    | _, vs => plainMessage vs

/-- The arguments that the message tells. -/
def told (f : Failure) : List Value :=
  match isNumbered f.args, f.args with
  | true, number :: text :: names =>
    if f.kind.isSsl then (match text with | .text _ => [] | _ => f.args)
    else if f.kind.isOs then number :: text :: concerned names
    else f.args
  | _, vs => vs

/-- What a report says of a failure. -/
def reportMessage (f : Failure) : String :=
  if f.told.all Value.hasText then f.message else "<exception str() failed>"

/-- The line of a report: the kind's name, and the message after a colon unless it is empty. -/
def reportLine (f : Failure) : String :=
  if f.reportMessage == "" then f.kind.reportName
  else f.kind.reportName ++ ": " ++ f.reportMessage

/-- The report of a failure after those of the failures that led to it. -/
def report : Failure → String
  | mk kind args none => (mk kind args none).reportLine
  | mk kind args (some f) =>
    f.report ++ "\n\nThe above exception was the direct cause of the following exception:\n\n" ++
      (mk kind args none).reportLine

/-- The same failure with the failure that led to it. -/
def because (f : Failure) (cause : Failure) : Failure := mk f.kind f.args (some cause)

/-- A failure with its arguments.  A failure of the operating system that has a number and a text
is of the kind that the number stands for. -/
def withArgs (kind : FailureKind) (args : List Value) (cause : Option Failure) : Failure :=
  let special : Option FailureKind :=
    if kind = .os && isNumbered args then
      (args.head?.bind Value.integer?).bind FailureKind.ofNumber?
    else none
  mk (special.getD kind) args cause

theorem isOs_withArgs (args : List Value) (cause : Option Failure) :
    (withArgs .os args cause).kind.isOs = true := by
  unfold withArgs
  cases hnumber : (if FailureKind.os = .os && isNumbered args then
      (args.head?.bind Value.integer?).bind FailureKind.ofNumber? else none) with
  | none => rfl
  | some kind =>
    rw [Option.ite_none_right_eq_some, Option.bind_eq_some_iff] at hnumber
    obtain ⟨-, number, -, hkind⟩ := hnumber
    exact FailureKind.isOs_of_ofNumber? hkind

/-- A failure with one text. -/
def plain (kind : FailureKind) (text : String) : Failure := mk kind [.text text] none

end Failure

/-- What can go wrong somewhere: each value has a kind and a message. -/
class Cause (α : Type) where
  kind : α → FailureKind
  message : α → String

def Failure.of {α : Type} [Cause α] (reason : α) : Failure :=
  Failure.plain (Cause.kind reason) (Cause.message reason)

/-- Fails with a reason. -/
def refuse {α β : Type} [Cause α] (reason : α) : Except Failure β := .error (Failure.of reason)

/-- A whole number of too many digits is to be written. -/
structure TooManyDigits where

instance : Cause TooManyDigits where
  kind _ := .value
  message _ := "Exceeds the limit (" ++ toString Decimal.digitLimit ++
    " digits) for integer string conversion; use sys.set_int_max_str_digits() to increase the limit"

/-- Passes a text on if the values that it tells can be written. -/
def ifWritten {α : Type} (written : Bool) (text : α) : Except Failure α :=
  if written then .ok text else refuse TooManyDigits.mk

/-- The plain text of a value, if it can be written. -/
def Value.shown? (v : Value) : Except Failure String := ifWritten v.hasText v.shown

/-- The quoted text of a value, if it can be written. -/
def Value.quoted? (v : Value) : Except Failure String := ifWritten v.hasText v.quoted

end TrustGate
