import TrustGate.Probe.Usage
import TrustGate.Probe.Snapshot
import TrustGate.Config.Logging
import TrustGate.Factory

/-!
# The probe

The probe opens one session as its command line says, prints a snapshot of it, and
closes it.  It ends with

    0   the session was opened, trust checks included
    1   connecting or the trust check failed
    2   the configuration cannot be used

unless the command line itself is at fault or asks for help.
-/

namespace TrustGate.Probe

/-- How the probe ended, and what it printed. -/
inductive Ending where
  /-- The command line asked for help. -/
  | helped
  /-- The command line is at fault. -/
  | refused (fault : ArgumentFault)
  | returned (code : Nat) (output : String)

/-- The status that the program exits with. -/
def Ending.status : Ending → Nat
  | .helped => 0
  | .refused _ => 2
  | .returned code _ => code

/-- What is said of the command line itself. -/
def Ending.complaint : Ending → String
  | .refused fault => usage ++ faultLine fault
  | _ => ""

/-- What goes to the standard output. -/
def Ending.output : Ending → String
  | .helped => help
  | .refused _ => ""
  | .returned _ output => output

/-- The settings that the command line makes, in place of those of a file. -/
def Arguments.overrides (a : Arguments) : List (Value × Value) :=
  let given (f : Field) (v : Value) : List (Value × Value) :=
    match v with
    | .null => []
    | v => [(.text f.name, v)]
  given .cafile a.cafile ++ given .certfile a.certfile ++ given .keyfile a.keyfile ++
    given .protocol a.protocol ++ given .connectTimeout a.timeout ++
    given .checkHostname (if a.noCheckHostname then .bool false else .null) ++
    given .debugLogging (if a.debug then .bool true else .null)

/-- Entries with others put on top. -/
def putOnTop (base top : List (Value × Value)) : List (Value × Value) :=
  top.foldl (fun entries (k, v) => setEntry Value.sameKey k v entries) base

variable {π τ : Type} [Platform π τ]

/-- The configuration of the file, if one is named, with the command line's settings on top. -/
def loadConfig (a : Arguments) : Action π τ Config := do
  let base ← match a.config.isGiven with
    | true => do pure (← Config.load a.config.shown).entries
    | false => pure []
  Config.ofEntries (putOnTop base a.overrides)

/-- Writes to the error output. -/
def printError (text : String) : Action π τ Unit :=
  modify fun w => { w with journal := w.journal.writeError text }

/-- The configuration, the logging set up by it, and the factory. -/
def setUp (a : Arguments) : Action π τ (Config × Factory) := do
  let config ← loadConfig a
  config.configureLogging
  let factory ← Factory.ofConfig config none
  return (config, factory)

/-- Takes a snapshot and closes the session, whatever comes of it. -/
def snapshotAndClose (a : Arguments) (session : SocketId) : Action π τ Snapshot := do
  let s ← Action.onFailure (Snapshot.take a.host a.port session) (Tls.Session.close session)
  Tls.Session.close session
  return s

/-- What is printed of a snapshot. -/
def Arguments.print (a : Arguments) (s : Snapshot) : String :=
  (if a.json then s.document.render else s.text) ++ "\n"

/-- Opens the session and prints its snapshot. -/
def connectAndPrint [Duration τ] (a : Arguments) (config : Config) (factory : Factory) :
    Action π τ Ending := do
  let params ← Action.ofExcept config.connectionParams
  let session : Action π τ Ending := do
    let id ← factory.createTimedSocket a.host a.port .null (.int 0) (some params)
    let s ← snapshotAndClose a id
    return .returned 0 (a.print s)
  tryCatch session fun f => do
    if f.kind.isOs then
      printError ("[Probe] connection to " ++ a.host.shown ++ ":" ++ a.port.shown ++ " failed: " ++
        f.message ++ "\n")
      return .returned 1 ""
    else throw f

/-- Probes as the arguments say. -/
def probe [Duration τ] (a : Arguments) : Action π τ Ending := do
  let attempt : Action π τ (Option (Config × Factory)) := do return some (← setUp a)
  let ready ← tryCatch attempt fun f => do
    if f.kind.isFactory then
      printError ("[Probe] configuration error: " ++ f.message ++ "\n")
      return none
    else throw f
  match ready with
  | some (config, factory) => connectAndPrint a config factory
  | none => return .returned 2 ""

/-- Runs the probe with the words of a command line. -/
def run [Duration τ] (words : List String) : Action π τ Ending :=
  match Wish.read words with
  | .error fault => return .refused fault
  | .ok .help => return .helped
  | .ok (.probe a) => probe a

end TrustGate.Probe
