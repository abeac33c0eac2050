import TrustGate.Logging.Record

/-!
# The journal: loggers, handlers and what they wrote

Loggers form a tree by their dotted names, with the root on top.  A logger without a
level of its own takes that of its nearest ancestor.  A record that passes its
logger's level goes to every handler of the root whose level it reaches; without
handlers, warnings and worse appear on the error output as bare messages.

    Journal.isEnabled j logger level     the record would be made
    Journal.write j record               hands a record to the handlers
    Journal.configure j debug address?   one handler, for the system log or the error output
-/

namespace TrustGate.Logging

/-- Where a handler writes. -/
inductive Sink where
  | errorOutput
  /-- The system log behind a socket; every line starts with the identity. -/
  | systemLog (address : String)
  deriving DecidableEq, Repr

structure Handler where
  sink : Sink
  level : Int
  deriving DecidableEq, Repr

/-- What the system log was asked to do. -/
inductive SystemLogEntry where
  | opened (address : String) (facility : Int)
  | line (text : String)
  deriving DecidableEq, Repr

structure Journal where
  /-- Levels of the loggers that have one of their own. -/
  levels : List (String × Int)
  rootLevel : Int
  handlers : List Handler
  style : ReportStyle
  /-- All records made, newest first. -/
  records : List Record
  /-- Everything written to the error output, newest first. -/
  errorOutput : List String
  /-- Everything sent to the system log, newest first. -/
  systemLog : List SystemLogEntry

namespace Journal

/-- Nothing is configured and nothing was written. -/
def empty : Journal := ⟨[], warning, [], .whole, [], [], []⟩

/-- The name under which records of the root logger appear. -/
def rootName : String := "root"

/-- The library's own logger, above those of its parts. -/
def libraryLogger : String := "sslfactory"

/-- The name without its last part, `none` for a name of one part. -/
def parent? (name : List Char) : Option (List Char) :=
  match name.reverse.dropWhile (· ≠ '.') with
  | [] => none
  | _ :: rest => some rest.reverse

/-- Whether a logger is another one or stands below it. -/
def isWithin (ancestor logger : String) : Bool :=
  logger == ancestor || (ancestor ++ ".").toList.isPrefixOf logger.toList

/-- The level set at a logger or at its nearest ancestor that has one; level 0 counts as none. -/
def levelFrom (j : Journal) : (fuel : Nat) → List Char → Int
  | 0, _ => j.rootLevel
  | fuel + 1, name =>
    let own := (j.levels.lookup (String.ofList name)).getD 0
    if own ≠ 0 then own
    else
      match parent? name with
      | some above => j.levelFrom fuel above
      | none => j.rootLevel

/-- The level that records of a logger have to reach. -/
def levelOf (j : Journal) (logger : String) : Int :=
  if logger = rootName then j.rootLevel else j.levelFrom (logger.length + 1) logger.toList

/-- Whether a logger makes records of a level. -/
def isEnabled (j : Journal) (logger : String) (level : Int) : Bool :=
  decide (j.levelOf logger ≤ level)

/-- Gives a logger a level of its own. -/
def setLevel (j : Journal) (logger : String) (level : Int) : Journal :=
  { j with levels := setEntry (· == ·) logger level j.levels }

/-- The identity in front of lines for the system log. -/
def identity : String := "sslfactory "

/-- The facility of user programs. -/
def userFacility : Int := 1

/-- Writes a text to the error output. -/
def writeError (j : Journal) (text : String) : Journal :=
  { j with errorOutput := text :: j.errorOutput }

/-- Hands a record to one handler; a record that cannot be written is dropped. -/
def handle (r : Record) (j : Journal) (h : Handler) : Journal :=
  if r.level < h.level then j
  else
    match r.line j.style with
    | .error _ => j
    | .ok line =>
      match h.sink with
      | .errorOutput => j.writeError (line ++ "\n")
      | .systemLog _ => { j with systemLog := .line (identity ++ line) :: j.systemLog }

/-- What becomes of a record when there are no handlers. -/
def lastResort (r : Record) (j : Journal) : Journal :=
  if r.level < warning then j
  else
    match r.message with
    | .error _ => j
    | .ok message => j.writeError (Text.escaped message ++ "\n")

/-- Keeps a record and hands it to the handlers. -/
def write (j : Journal) (r : Record) : Journal :=
  let j := { j with records := r :: j.records }
  if j.handlers.isEmpty then j.lastResort r else j.handlers.foldl (handle r) j

/-- The level of a configured journal. -/
def configuredLevel (debugging : Bool) : Int := if debugging then debug else info

/-- One handler in place of those before: the system log if it has an address, else the error
output. -/
def configure (j : Journal) (debugging : Bool) (address : Option String) : Journal :=
  let level := configuredLevel debugging
  match address with
  | some a =>
    { j with
      rootLevel := level, handlers := [⟨.systemLog a, level⟩]
      systemLog := .opened a userFacility :: j.systemLog }
  | none => { j with rootLevel := level, handlers := [⟨.errorOutput, level⟩] }

end Journal

/-- A detail that would hide one of the record's own attributes. -/
structure OwnAttribute where
  name : String

instance : Cause OwnAttribute where
  kind _ := .key
  message a := "Attempt to overwrite " ++ (Value.text a.name).quoted ++ " in LogRecord"

/-- A record with further details, none of which may hide its own attributes. -/
def Record.withDetails (r : Record) : List (String × Value) → Except Failure Record
  | [] => .ok r
  | (name, value) :: rest =>
    if ownAttributes.contains name && name != "taskName" then refuse (OwnAttribute.mk name)
    else (r.set name value).withDetails rest

end TrustGate.Logging
