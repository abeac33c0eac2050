import TrustGate.Rehearsal.Script

/-!
# The stage: a platform that follows scripts

The stage keeps sockets, engines and sessions with what is left of their scripts.  Its
monotonic clock moves only as resolution and connecting take time.
-/

namespace TrustGate

namespace Seconds

/-- Seconds as floats; a whole number may be too large for one. -/
def ofValue (v : Value) : Except Failure Float :=
  match v.toFloat? with
  | some x => .ok x
  | none => .error (Failure.plain .overflow "int too large to convert to float")

end Seconds

instance : Duration Float where
  zero := 0.0
  add := (· + ·)
  sub := (· - ·)
  le x y := x ≤ y
  ofValue := Seconds.ofValue

namespace Rehearsal

structure StagedSocket where
  script : SocketScript
  isOpen : Bool
  /-- The time limit as it was set last. -/
  timeout : Value

structure StagedEngine where
  script : EngineScript
  minimum : TlsVersion
  maximum : TlsVersion

structure StagedSession where
  script : SessionScript
  timeout : Value
  /-- The engine has finished a handshake. -/
  finished : Bool

structure Stage where
  now : Float
  monotonic : Float
  clocks : List (Nat × Time.DateTime)
  customs : List (Nat × CustomScript)
  /-- Scripts for what is made next. -/
  net : NetScript
  engine : EngineScript
  session : SessionScript
  verdict : Verdict
  sockets : List (SocketId × StagedSocket)
  engines : List (EngineId × StagedEngine)
  sessions : List (SocketId × StagedSession)

namespace Stage

def start (now monotonic : Float) : Stage where
  now
  monotonic
  clocks := []
  customs := []
  net := .plain
  engine := .plain
  session := .plain
  verdict := .accepted
  sockets := []
  engines := []
  sessions := []

def setSocket (s : Stage) (id : SocketId) (x : StagedSocket) : Stage :=
  { s with sockets := setEntry (· == ·) id x s.sockets }

def setEngine (s : Stage) (id : EngineId) (x : StagedEngine) : Stage :=
  { s with engines := setEntry (· == ·) id x s.engines }

def setSession (s : Stage) (id : SocketId) (x : StagedSession) : Stage :=
  { s with sessions := setEntry (· == ·) id x s.sessions }

def socket (s : Stage) (id : SocketId) : StagedSocket :=
  (s.sockets.lookup id).getD ⟨.plain, false, .null⟩

def engineOf (s : Stage) (id : EngineId) : StagedEngine :=
  (s.engines.lookup id).getD ⟨.plain, .minimumSupported, .maximumSupported⟩

def sessionOf (s : Stage) (id : SocketId) : StagedSession :=
  (s.sessions.lookup id).getD ⟨.plain, .null, false⟩

/-- Success, or the failure that a script gives. -/
def outcome : Option Failure → Except Failure Unit
  | some f => .error f
  | none => .ok ()

/-- A socket with a script that is connected and has no time limit. -/
def openSocket (s : Stage) (id : SocketId) (script : SocketScript) : Stage :=
  s.setSocket id ⟨script, true, .null⟩

/-- The value of a time limit. -/
def limitValue : TimeLimit Float → Value
  | .given v => v
  | .remaining x => .float x

/-- Sets a time limit, which must not be negative. -/
def setTimeout (s : Stage) (id : SocketId) (limit : Value) : Except Failure Unit × Stage :=
  if limit.isNegative? = some true then
    (.error (Failure.plain .value "Timeout value out of range"), s)
  else (.ok (), s.setSocket id { s.socket id with timeout := limit })

/-- Connects a socket, for as long as the script and the time limit say. -/
def connect (s : Stage) (id : SocketId) : Except Failure Unit × Stage :=
  let x := s.socket id
  let cutOff : Option Float := x.timeout.toFloat?.filter fun t =>
    decide (t ≤ x.script.take) && !x.script.overrun
  match cutOff with
  | some t =>
    (.error (Failure.plain .timeout "timed out"), { s with monotonic := s.monotonic + t })
  | none => (outcome x.script.connectFailure, { s with monotonic := s.monotonic + x.script.take })

/-- The failure that the script of an engine has for a setting. -/
def refusal (x : StagedEngine) (setting : String) : Except Failure Unit :=
  outcome (x.script.failures.lookup setting)

/-- Makes a session of a socket, unless the script refuses it.  Names stay as they are. -/
def wrap (s : Stage) (id : SocketId) (host : Option String) :
    Except Failure (Option String) × Stage :=
  match s.session.wrapFailure with
  | some f => (.error f, s)
  | none =>
    let x := s.socket id
    (.ok host, (s.setSocket id { x with isOpen := false }).setSession id
      ⟨s.session, x.timeout, false⟩)

def handshake (s : Stage) (id : SocketId) : Except Failure Unit × Stage :=
  let x := s.sessionOf id
  match x.script.handshakes with
  | some f :: rest =>
    (.error f, s.setSession id { x with script := { x.script with handshakes := rest } })
  | none :: rest =>
    (.ok (), s.setSession id
      { x with script := { x.script with handshakes := rest }, finished := true })
  | [] => (.ok (), s.setSession id { x with finished := true })

def read (s : Stage) (id : SocketId) (size : Int) : Except Failure Octets × Stage :=
  let x := s.sessionOf id
  match x.script.reads with
  | [] => (.ok [], s)
  | r :: rest =>
    (r.map (·.take size.toNat),
      s.setSession id { x with script := { x.script with reads := rest } })

def write (s : Stage) (id : SocketId) (data : Octets) : Except Failure Nat × Stage :=
  let x := (s.sessionOf id).script
  match x.writeFailure with
  | some f => (.error f, s)
  | none => (.ok ((x.writeLimit.map (min data.length)).getD data.length), s)

/-- Takes the script of the next socket. -/
def nextSocketScript (s : Stage) : SocketScript × Stage :=
  match s.net.sockets with
  | [] => (.plain, s)
  | x :: rest => (x, { s with net := { s.net with sockets := rest } })

/-- The wall clock. -/
def wallClock (s : Stage) : Time.DateTime :=
  match Time.DateTime.ofEpochMicros ((Time.microsOfSeconds? s.now).getD 0) with
  | .ok t => t
  | .error _ => ⟨⟨1970, 1, 1⟩, ⟨0, 0, 0, 0⟩, some 0⟩

def custom (s : Stage) (c : Trust.Custom) : CustomScript :=
  (s.customs.lookup c.number).getD ⟨none, none, .ok []⟩

/-- What the stage answers to a call. -/
def answer (s : Stage) : (call : Call Float) → Reply call × Stage
  | .monotonicClock => (s.monotonic, s)
  | .wallClock => (s.wallClock, s)
  | .customClock n => ((s.clocks.lookup n).getD s.wallClock, s)
  | .resolve _ _ =>
    let s := { s with monotonic := s.monotonic + s.net.resolve.take }
    match s.net.resolve.failure with
    | some f => (.error f, s)
    | none => (.ok s.net.resolve.endpoints, s)
  | .openSocket id _ _ =>
    let (script, s) := s.nextSocketScript
    match script.createFailure with
    | some f => (.error f, s)
    | none => (.ok (), s.openSocket id script)
  | .setTimeout id limit => s.setTimeout id (limitValue limit)
  | .bind id _ => (outcome (s.socket id).script.bindFailure, s)
  | .connect id _ => s.connect id
  | .openDirect id _ _ =>
    match s.net.directFailure with
    | some f => (.error f, s)
    | none => (.ok (), s.openSocket id .plain)
  | .duplicate id copy => (.ok (), s.setSocket copy (s.socket id))
  | .closeSocket id => ((), s.setSocket id { s.socket id with isOpen := false })
  | .isOpen id => ((s.socket id).isOpen, s)
  | .newEngine id =>
    let x : StagedEngine := ⟨s.engine, .minimumSupported, .maximumSupported⟩
    (refusal x "new_context", s.setEngine id x)
  | .setMinimumVersion id v =>
    let x := s.engineOf id
    (refusal x "minimum_version", s.setEngine id { x with minimum := v })
  | .setMaximumVersion id v =>
    let x := s.engineOf id
    (refusal x "maximum_version", s.setEngine id { x with maximum := v })
  | .setCheckHostname id _ => (refusal (s.engineOf id) "check_hostname", s)
  | .versions id =>
    let x := s.engineOf id
    ((x.script.minimum.getD x.minimum, x.script.maximum.getD x.maximum), s)
  | .loadIdentity id _ _ _ => (refusal (s.engineOf id) "load_cert_chain", s)
  | .loadTrust id _ _ => (refusal (s.engineOf id) "load_verify_locations", s)
  | .loadDefaultTrust id => (refusal (s.engineOf id) "load_default_certs", s)
  | .wrap _ id host => s.wrap id host
  | .handshake id => s.handshake id
  | .read id size => s.read id size
  | .write id data => s.write id data
  | .closeSession _ => ((), s)
  | .verifiedChain id => (.ok (s.sessionOf id).script.verifiedChain, s)
  | .peer id => (.ok (s.sessionOf id).script.peer, s)
  | .version id =>
    let x := s.sessionOf id
    (.ok (if x.finished then x.script.version else none), s)
  | .cipher id => (.ok (s.sessionOf id).script.cipher, s)
  | .verify _ => (s.verdict, s)
  | .consult c => (outcome (s.custom c.validator).check, s)
  | .install c _ => (outcome (s.custom c).install, s)
  | .anchors c => ((s.custom c).anchors, s)

end Stage

instance : Platform Stage Float where
  answer call s := s.answer call
  recordTime s := .float s.now

end Rehearsal

end TrustGate
