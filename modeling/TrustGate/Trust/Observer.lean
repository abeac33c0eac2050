import TrustGate.Platform.World

/-!
# Observers at work

An observer is told of every chain before the validator is asked.  The logging
observer writes one record for the chain and one for each certificate, unless its
logger would not make them.  A delegate lets no failure of an observer get through: it
is logged, and the validator is asked all the same.  Only a request to stop the
program passes.
-/

namespace TrustGate.Trust

/-- Something of a type that cannot be called. -/
structure NotCallable where
  typeName : String

instance : Cause NotCallable where
  kind _ := .type
  message n := "'" ++ n.typeName ++ "' object is not callable"

variable {π τ : Type} [Platform π τ]

/-- Logs one certificate, the first being number 1. -/
def logCertificate (logger : String) (level : Int) (index : Nat) (c : Certificate) :
    Action π τ Unit := do
  let d ← Action.ofExcept c.describe
  emit logger level "Server certificate %d: subject=%s issuer=%s serial=%s valid %s..%s"
    (.int index :: d.fields.map fun (_, text) => .text text)
    [("certificate", .dict (d.fields.map fun (name, text) => (.text name, .text text)))] none

/-- Logs the certificates of a chain, the first being number `index`. -/
def logCertificates (logger : String) (level : Int) : (index : Nat) → List Certificate →
    Action π τ Unit
  | _, [] => pure ()
  | index, c :: cs => do
    logCertificate logger level index c
    logCertificates logger level (index + 1) cs

/-- How a host is called in logs. -/
def hostShown (host : Option String) : String :=
  match host with
  | some h => if h = "" then "<unknown host>" else h
  | none => "<unknown host>"

namespace Observer

/-- Tells an observer of a chain. -/
def tell (observer : Observer) (event : TrustEvent) : Action π τ Unit := do
  match observer with
  | .uncallable typeName _ => Action.refuse (NotCallable.mk typeName)
  | .custom name answer =>
    let w ← get
    let past := (w.told.filter (·.1 == name)).map (·.2)
    set { w with told := (name, event) :: w.told, history := .observed name event :: w.history }
    match answer past event with
    | some f => throw f
    | none => pure ()
  | .logging logger level =>
    if (← get).journal.isEnabled logger level then
      emit logger level "Validating %d certificate(s) for %s (auth type %s) with %s"
        [.int event.chain.length, .text (hostShown event.host), .text event.authType,
          .text event.validator] [] none
      logCertificates logger level 1 event.chain

/-- Tells an observer and lets only requests to stop the program through. -/
def notify (observer : Observer) (event : TrustEvent) : Action π τ Unit :=
  tryCatch (observer.tell event) fun f =>
    if f.kind.isException then
      errorLog trustLogger "Trust observer %r failed" [.other observer.shown] f
    else throw f

end Observer

end TrustGate.Trust
