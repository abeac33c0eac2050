import TrustGate.Text.Template
import TrustGate.Json.Basic

/-!
# Log records and their lines

A record has a logger, a level, a message template with arguments, a creation time,
perhaps a failure, and further attributes.  Its line is one JSON object:

    {"ts":…,"level":…,"logger":…,"message":…,"extra":{…},"exception":…}

`extra` holds the attributes that are not the record's own and do not start with an
underscore; it and `exception` are left out when there is nothing to say.  The
logger's name loses one leading `sslfactory.`.  There is no line if half of a surrogate
pair got into the message or a whole number has too many digits to be written.
-/

namespace TrustGate.Logging

/-- The name of a level. -/
def levelName (level : Int) : String :=
  if level = 50 then "CRITICAL"
  else if level = 40 then "ERROR"
  else if level = 30 then "WARNING"
  else if level = 20 then "INFO"
  else if level = 10 then "DEBUG"
  else if level = 0 then "NOTSET"
  else "Level " ++ toString level

def debug : Int := 10
def info : Int := 20
def warning : Int := 30
def error : Int := 40

/-- The level of a name; two levels have a second one. -/
def levelOfName? (name : String) : Option Int :=
  if name = "FATAL" then some 50
  else if name = "WARN" then some 30
  else [0, 10, 20, 30, 40, 50].find? fun l => levelName l == name

/-- A name that no level has. -/
structure UnknownLevel where
  name : String

instance : Cause UnknownLevel where
  kind _ := .value
  message u := "Unknown level: " ++ Text.quoted u.name

/-- The level of a name, which has to be one. -/
def readLevel (name : String) : Except Failure Int :=
  match levelOfName? name with
  | some level => .ok level
  | none => refuse (UnknownLevel.mk name)

structure Record where
  logger : Value
  level : Int
  levelName : Value
  template : Value
  arguments : Value
  created : Value
  failure : Option Failure
  /-- Attributes that are not the record's own, in the order they were first set. -/
  extra : List (String × Value)

/-- The arguments of a record: one mapping that is not empty stands for itself. -/
def argumentsOf (args : List Value) : Value :=
  match args with
  | [.dict (e :: es)] => .dict (e :: es)
  | _ => .tuple args

def Record.make (logger : String) (level : Int) (template : Value) (args : List Value)
    (created : Value) (failure : Option Failure) : Record :=
  ⟨.text logger, level, .text (Logging.levelName level), template, argumentsOf args, created,
    failure, []⟩

/-- Attributes that every record has. -/
def ownAttributes : List String :=
  ["name", "msg", "args", "levelname", "levelno", "pathname", "filename", "module", "exc_info",
    "exc_text", "stack_info", "lineno", "funcName", "created", "msecs", "relativeCreated", "thread",
    "threadName", "processName", "process", "asctime", "message", "taskName"]

/-- Sets an attribute of a record. -/
def Record.set (r : Record) (name : String) (value : Value) : Record :=
  if name = "name" then { r with logger := value }
  else if name = "msg" then { r with template := value }
  else if name = "args" then { r with arguments := value }
  else if name = "levelname" then { r with levelName := value }
  else if name = "created" then { r with created := value }
  else if name = "exc_info" then { r with failure := none }
  else if ownAttributes.contains name then r
  else { r with extra := setEntry (· == ·) name value r.extra }

/-- The message: the template filled, or the template itself if there are no arguments. -/
def Record.message (r : Record) : Except Failure (List Text.Point) := do
  let template ← r.template.shown?
  if r.arguments.isGiven then Template.fill template r.arguments
  else return Text.points template

/-! ## Time -/

inductive StampFault where
  | notANumber
  | notWhole (typeName : String)
  | outOfRange
  | tooLarge
  | year (year : Int)
  deriving DecidableEq, Repr

instance : Cause StampFault where
  kind
    | .notANumber | .year _ => .value
    | .notWhole _ => .type
    | .outOfRange => .overflow
    | .tooLarge => .os
  message
    | .notANumber => "Invalid value NaN (not a number)"
    | .notWhole typeName => "'" ++ typeName ++ "' object cannot be interpreted as an integer"
    | .outOfRange => "timestamp out of range for platform time_t"
    | .tooLarge => "[Errno 75] Value too large for defined data type"
    | .year year => "year " ++ toString year ++ " is out of range"

/-- Microseconds since the epoch; the whole seconds have to be a number of sixty-four bits. -/
def stampMicros (v : Value) : Except Failure Int :=
  let bounded (micros : Int) : Except Failure Int :=
    if -(Nat.pow 2 63 : Int) ≤ micros / 1000000 ∧ micros / 1000000 < Nat.pow 2 63 then .ok micros
    else refuse StampFault.outOfRange
  match v with
  | .float x =>
    match Time.microsOfSeconds? x with
    | some micros => bounded micros
    | none => if x.isNaN then refuse StampFault.notANumber else refuse StampFault.outOfRange
  | v =>
    match v.integer? with
    | some i => bounded (i * 1000000)
    | none => refuse (StampFault.notWhole v.typeName)

/-- The universal time of a number of seconds since the epoch. -/
def stamp (v : Value) : Except Failure Time.DateTime := do
  match Time.DateTime.ofEpochMicros (← stampMicros v) with
  | .ok t => return t
  | .error year =>
    -- Years are counted from 1900 in thirty-two bits, and told in as many from the year 0.
    if year < 1900 - Nat.pow 2 31 ∨ 1900 + Nat.pow 2 31 ≤ year then refuse StampFault.tooLarge
    else refuse (StampFault.year (year.bmod (Nat.pow 2 32)))

/-! ## Details as JSON -/

/-- Octets as pairs of upper-case hexadecimal digits, joined by colons. -/
def fingerprint (bs : Octets) : String :=
  String.intercalate ":" (bs.map fun b => String.ofList ((Text.hex 2 b.toNat).map Char.toUpper))

mutual

/-- The JSON image of a value: containers keep their structure, keys become text (a later equal
key wins and keeps the place), and whatever JSON has no word for is its text. -/
def image : Value → Json
  | .null => .null
  | .bool b => .bool b
  | .int i => .int i
  | .float x => .float x
  | .text s => .text s
  | .bytes bs => .text (fingerprint bs)
  | .list xs => .array (images xs)
  | .tuple xs => .array (images xs)
  | .dict es => .object (ofEntries (· == ·) (memberImages es))
  | .version v => .int v.number
  | v => .text v.shown

def images : List Value → List Json
  | [] => []
  | x :: xs => image x :: images xs

def memberImages : List (Value × Value) → List (String × Json)
  | [] => []
  | (k, v) :: es => (k.shown, image v) :: memberImages es

end

mutual

/-- Whether the keys of the mappings inside a value, which become text, can be written. -/
def keysHaveText : Value → Bool
  | .list xs => eachKeysHaveText xs
  | .tuple xs => eachKeysHaveText xs
  | .dict es => entriesKeysHaveText es
  | _ => true

def eachKeysHaveText : List Value → Bool
  | [] => true
  | x :: xs => keysHaveText x && eachKeysHaveText xs

def entriesKeysHaveText : List (Value × Value) → Bool
  | [] => true
  | (k, v) :: es => k.hasText && keysHaveText v && entriesKeysHaveText es

end

/-! ## Lines -/

def loggerPrefix : String := "sslfactory."

/-- A name without one leading prefix. -/
def withoutPrefix (name : String) : String :=
  if loggerPrefix.toList.isPrefixOf name.toList then
    String.ofList (name.toList.drop loggerPrefix.length)
  else name

/-- Something that has no part of the given name. -/
structure NoAttribute where
  typeName : String
  name : String

instance : Cause NoAttribute where
  kind _ := .attribute
  message a := "'" ++ a.typeName ++ "' object has no attribute '" ++ a.name ++ "'"

def shortLogger : Value → Except Failure String
  | .text name => .ok (withoutPrefix name)
  | v => refuse (NoAttribute.mk v.typeName "removeprefix")

/-- How a failure is told in a line. -/
inductive ReportStyle where
  /-- With all failures that led to it. -/
  | whole
  /-- Only the last line. -/
  | lastLine
  deriving DecidableEq, Repr

/-- The part of a text after its last line break. -/
def lastLineOf (s : String) : String :=
  String.ofList ((s.toList.reverse.takeWhile (· ≠ '\n')).reverse)

def ReportStyle.text (style : ReportStyle) (f : Failure) : String :=
  match style with
  | .whole => f.report
  | .lastLine => lastLineOf f.report

/-- Attributes that a line shows. -/
def Record.shown (r : Record) : List (String × Value) :=
  r.extra.filter fun (k, _) => !"_".toList.isPrefixOf k.toList

/-- What a line tells of them. -/
def Record.details (r : Record) : List (String × Json) := r.shown.map fun (k, v) => (k, image v)

/-- A document that is to be encoded. -/
def encodable (j : Json) : Except Failure Json := ifWritten j.hasText j

/-- The JSON object of a record. -/
def Record.document (style : ReportStyle) (r : Record) : Except Failure Json := do
  let details ← ifWritten (r.shown.all fun (_, v) => keysHaveText v) (Json.object r.details)
  let time ← stamp r.created
  let logger ← shortLogger r.logger
  let message ← r.message
  -- The members are encoded one after the other.
  let level ← encodable (← ifWritten (keysHaveText r.levelName) (image r.levelName))
  let message ← Text.characters message
  let details ← encodable details
  return .object ([("ts", .text time.millisText), ("level", level), ("logger", .text logger),
    ("message", .text message)] ++
    (if r.shown.isEmpty then [] else [("extra", details)]) ++
    (r.failure.map fun f => ("exception", Json.text (style.text f))).toList)

/-- The line of a record. -/
def Record.line (style : ReportStyle) (r : Record) : Except Failure String :=
  (r.document style).map Json.render

end TrustGate.Logging
