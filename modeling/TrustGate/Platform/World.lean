import TrustGate.Platform.Call
import TrustGate.Logging.Journal
import TrustGate.Metrics.Counters
import TrustGate.Files

/-!
# Worlds and actions

A world is all that an action can see or change: the platform's state, the files, what
has happened so far, the journal, the counters and the TLS sessions.  An action runs in
a world and ends with a result or a failure; either way the world keeps what it did.

    ask call          asks the platform and records what it answers
    emit              writes to the journal
    countOutcome      counts how an attempt to connect ended
    countDecision     counts what validators decided

    an action that fails is handled in the world it left            (tryCatch_eq)
    cleaning up changes a failure only by failing itself            (onFailure_eq)
-/

namespace TrustGate

/-- A TLS session as the library sees it. -/
structure Session where
  /-- The name of the peer, as the engine has it. -/
  host : Option String
  /-- Who has to accept the peer's chain. -/
  validators : List Trust.Provider
  /-- All validators have accepted the chain, or there are none. -/
  verified : Bool
  isOpen : Bool

structure World (π τ : Type) where
  platform : π
  files : Files
  /-- The address of the system log, if the environment names one. -/
  systemLog : Option String
  /-- What has happened, newest first. -/
  history : List (Happening τ)
  journal : Logging.Journal
  counters : Metrics.Counters
  /-- The number of the next socket. -/
  nextSocket : SocketId
  /-- The number of the next engine. -/
  nextEngine : EngineId
  sessions : SocketId → Option Session
  /-- What observers were told, newest first. -/
  told : List (String × Trust.TrustEvent)

/-- Runs in a world; a failure keeps the world as it was left. -/
abbrev Action (π τ α : Type) := EStateM Failure (World π τ) α

namespace World

/-- Nothing has happened yet. -/
def initial {π τ : Type} (platform : π) (files : Files) : World π τ where
  platform
  files
  systemLog := none
  history := []
  journal := .empty
  counters := .empty
  nextSocket := 0
  nextEngine := 0
  sessions := fun _ => none
  told := []

def setSession {π τ : Type} (w : World π τ) (id : SocketId) (s : Session) : World π τ :=
  { w with sessions := fun i => if i = id then some s else w.sessions i }

theorem sessions_setSession_self {π τ : Type} (w : World π τ) (id : SocketId) (s : Session) :
    (w.setSession id s).sessions id = some s := by
  simp [World.setSession]

theorem sessions_setSession_of_ne {π τ : Type} (w : World π τ) {id other : SocketId}
    (s : Session) (h : other ≠ id) : (w.setSession id s).sessions other = w.sessions other := by
  simp [World.setSession, h]

end World

namespace Action

variable {π τ α : Type}

/-- A result that is there already. -/
def ofExcept : Except Failure α → Action π τ α
  | .ok a => pure a
  | .error f => throw f

/-- Fails with a reason. -/
def refuse {ρ : Type} [Cause ρ] (reason : ρ) : Action π τ α := throw (Failure.of reason)

/-- Runs an action; if it fails, runs another and fails all the same. -/
def onFailure (action : Action π τ α) (cleanUp : Action π τ Unit) : Action π τ α :=
  tryCatch action fun f => do
    cleanUp
    throw f

theorem ofExcept_ok (a : α) (w : World π τ) :
    (ofExcept (.ok a) : Action π τ α) w = .ok a w := rfl

theorem ofExcept_error (f : Failure) (w : World π τ) :
    (ofExcept (.error f) : Action π τ α) w = .error f w := rfl

/-- A failure is handled in the world that the action left. -/
theorem tryCatch_eq (action : Action π τ α) (handle : Failure → Action π τ α) (w : World π τ) :
    tryCatch action handle w = match action w with
      | .ok a w => .ok a w
      | .error f w => handle f w := by
  change EStateM.tryCatch action handle w = _
  unfold EStateM.tryCatch
  cases action w <;> rfl

/-- Cleaning up changes the failure only by failing itself. -/
theorem onFailure_eq (action : Action π τ α) (cleanUp : Action π τ Unit) (w : World π τ) :
    onFailure action cleanUp w = match action w with
      | .ok a w => .ok a w
      | .error f w =>
        match cleanUp w with
        | .ok _ w => .error f w
        | .error g w => .error g w := by
  rw [onFailure, tryCatch_eq]
  cases action w with
  | ok a w => rfl
  | error f w =>
    change EStateM.bind cleanUp _ w = _
    cases h : cleanUp w <;> simp only [EStateM.bind, h]
    rfl

end Action

section

variable {π τ : Type} [Platform π τ]

/-- Asks the platform and records its answer. -/
def ask (call : Call τ) : Action π τ (Reply call) := do
  let w ← get
  let (reply, platform) := Platform.answer call w.platform
  set { w with platform, history := .called call reply :: w.history }
  return reply

/-- Writes a record to the journal if its logger makes records of that level. -/
def emit (logger : String) (level : Int) (template : String) (args : List Value)
    (details : List (String × Value)) (failure : Option Failure) : Action π τ Unit := do
  let w ← get
  if w.journal.isEnabled logger level then
    let created := Platform.recordTime τ w.platform
    let record := Logging.Record.make logger level (.text template) args created failure
    let record ← Action.ofExcept (record.withDetails details)
    set { w with journal := w.journal.write record }

def debugLog (logger template : String) (args : List Value) : Action π τ Unit :=
  emit logger Logging.debug template args [] none

def warningLog (logger template : String) (args : List Value) : Action π τ Unit :=
  emit logger Logging.warning template args [] none

/-- An error with the failure behind it. -/
def errorLog (logger template : String) (args : List Value) (failure : Failure) :
    Action π τ Unit :=
  emit logger Logging.error template args [] (some failure)

/-- Counts how an attempt to connect ended. -/
def countOutcome (outcome : Metrics.Outcome) : Action π τ Unit :=
  modify fun w => { w with counters := w.counters.addConnection outcome.label }

/-- Counts a decision on a chain. -/
def countDecision (decision : Metrics.Decision) : Action π τ Unit :=
  modify fun w => { w with counters := w.counters.addDecision decision.label }

/-- A number for a new socket. -/
def freshSocket : Action π τ SocketId := return (← get).nextSocket

/-- Takes the number: a socket goes by it from now on. -/
def takeSocket (id : SocketId) : Action π τ Unit :=
  modify fun w => { w with nextSocket := id + 1 }

end

end TrustGate
