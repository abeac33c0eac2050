import TrustGate.Failure.Basic

/-!
# Connection requests

A request says where to connect, from which local address, and within what time.
Fields are kept as the caller gave them; a request exists only if they pass the
checks, host first, then the two ports, then the connect timeout.

A connect timeout of zero means no deadline.  The second timeout governs the
handshake and everything after it; null blocks.
-/

namespace TrustGate.Connection

inductive RequestFault where
  | emptyHost
  | badPort (field quoted : String)
  | negativeConnectTimeout (shown : String)
  | nonpositiveSoTimeout (shown : String)
  | noSocket
  | closedSocket
  | noParams
  deriving DecidableEq, Repr

def leastPort : Int := 1

def greatestPort : Int := 65535

instance : Cause RequestFault where
  kind _ := .argument
  message
    | .emptyHost => "Host may not be empty"
    | .badPort field quoted => field ++ " must be an integer in " ++ toString leastPort ++ ".." ++
        toString greatestPort ++ ", got " ++ quoted
    | .negativeConnectTimeout shown => "connect_timeout must be >= 0, got " ++ shown
    | .nonpositiveSoTimeout shown => "so_timeout must be positive, got " ++ shown
    | .noSocket => "Socket may not be None"
    | .closedSocket => "Socket is closed"
    | .noParams => "Parameters may not be None"

/-- A value that cannot be compared with a number. -/
structure NotComparable where
  operator : String
  typeName : String

instance : Cause NotComparable where
  kind _ := .type
  message c := "'" ++ c.operator ++ "' not supported between instances of '" ++ c.typeName ++
    "' and 'int'"

/-- A whole number from 1 to 65535; a truth value is no port. -/
def checkPort (field : String) (port : Value) : Except Failure Unit :=
  let bad : Except Failure Unit := refuse (RequestFault.badPort field port.quoted)
  match port with
  | .bool _ => bad
  | _ =>
    match port.integer? with
    | some n => if leastPort ≤ n ∧ n ≤ greatestPort then .ok () else bad
    | none => bad

def checkConnectTimeout (timeout : Value) : Except Failure Unit :=
  match timeout.isNegative? with
  | some true => refuse (RequestFault.negativeConnectTimeout timeout.shown)
  | some false => .ok ()
  | none => refuse (NotComparable.mk "<" timeout.typeName)

def checkSoTimeout (timeout : Value) : Except Failure Unit :=
  match timeout with
  | .null => .ok ()
  | _ =>
    match timeout.isNonpositive? with
    | some true => refuse (RequestFault.nonpositiveSoTimeout timeout.shown)
    | some false => .ok ()
    | none => refuse (NotComparable.mk "<=" timeout.typeName)

def defaultConnectTimeout : Value := .float 0.0

/-- The timeouts of one connection, in seconds. -/
structure Params where
  connectTimeout : Value
  soTimeout : Value

/-- Both timeouts are checked. -/
def Params.make (connectTimeout soTimeout : Value) : Except Failure Params := do
  checkConnectTimeout connectTimeout
  checkSoTimeout soTimeout
  return ⟨connectTimeout, soTimeout⟩

structure Request where
  host : Value
  port : Value
  localAddress : Value
  localPort : Value
  connectTimeout : Value
  soTimeout : Value

/-- Everything but the second timeout is checked. -/
def Request.make (host port localAddress localPort connectTimeout soTimeout : Value) :
    Except Failure Request := do
  if !host.isGiven then refuse RequestFault.emptyHost
  checkPort "port" port
  if localPort.isGiven then checkPort "local_port" localPort
  checkConnectTimeout connectTimeout
  return ⟨host, port, localAddress, localPort, connectTimeout, soTimeout⟩

/-- A request with checked timeouts. -/
def Request.withParams (host port localAddress localPort : Value) (params : Params) :
    Except Failure Request :=
  Request.make host port localAddress localPort params.connectTimeout params.soTimeout

/-- Where to connect. -/
def Request.address (r : Request) : Value := .tuple [r.host, r.port]

/-- The local address to connect from, if one is given. -/
def Request.sourceAddress? (r : Request) : Option Value :=
  match r.localAddress, r.localPort.isGiven with
  | .null, false => none
  | a, _ => some (.tuple [if a.isGiven then a else .text "", r.localPort])

end TrustGate.Connection
