import TrustGate.Decimal.Reader
import TrustGate.Connection.Request
import TrustGate.Tls.Protocol

/-!
# The command line of the probe

Words are options, arguments or the separator `--`, after which all words are
arguments.  An option may be shortened as long as it stays the only one of its
beginning; its value follows it, or stands in the same word after `=`.  A word such as
`-1` is an argument.

Positional arguments are taken as they come, between options too.  What is left over at
the end is reported, unless a required argument is missing.

    Arguments.read words     the arguments, the wish for help, or a fault
-/

namespace TrustGate.Probe

inductive Flag where
  | help
  | config
  | cafile
  | certfile
  | keyfile
  | protocol
  | timeout
  | noCheckHostname
  | debug
  | json
  deriving DecidableEq, Repr

namespace Flag

/-- The ways to write an option. -/
def names : Flag → List String
  | .help => ["-h", "--help"]
  | .config => ["--config"]
  | .cafile => ["--cafile"]
  | .certfile => ["--certfile"]
  | .keyfile => ["--keyfile"]
  | .protocol => ["--protocol"]
  | .timeout => ["--timeout"]
  | .noCheckHostname => ["--no-check-hostname"]
  | .debug => ["--debug"]
  | .json => ["--json"]

def all : List Flag := [.help, .config, .cafile, .certfile, .keyfile, .protocol, .timeout,
  .noCheckHostname, .debug, .json]

/-- Every way to write an option, with the option. -/
def spellings : List (String × Flag) := all.flatMap fun f => f.names.map fun n => (n, f)

/-- Whether an option has a value. -/
def takesValue : Flag → Bool
  | .help | .noCheckHostname | .debug | .json => false
  | _ => true

/-- The name of an option in faults. -/
def label (f : Flag) : String := String.intercalate "/" f.names

end Flag

/-- The positional arguments. -/
inductive Slot where
  | host
  | port
  deriving DecidableEq, Repr

def Slot.name : Slot → String
  | .host => "host"
  | .port => "port"

inductive ArgumentFault where
  | missing (names : List String)
  | leftOver (words : List String)
  | ambiguous (word : String) (spellings : List String)
  | noValue (flag : Flag)
  | unwantedValue (flag : Flag) (quoted : String)
  | portRange
  | notAPort (quoted : String)
  | negativeTimeout
  | notATimeout (quoted : String)
  | notAChoice (quoted : String)
  deriving DecidableEq, Repr

namespace ArgumentFault

def about (name text : String) : String := "argument " ++ name ++ ": " ++ text

/-- The protocols to choose from. -/
def choices : List String := Tls.protocolNames.map fun p => (Value.text p.1).quoted

def message : ArgumentFault → String
  | .missing names =>
    "the following arguments are required: " ++ String.intercalate ", " names
  | .leftOver words => "unrecognized arguments: " ++ String.intercalate " " words
  | .ambiguous word spellings =>
    "ambiguous option: " ++ word ++ " could match " ++ String.intercalate ", " spellings
  | .noValue f => about f.label "expected one argument"
  | .unwantedValue f quoted => about f.label ("ignored explicit argument " ++ quoted)
  | .portRange => about Slot.port.name ("port must be in " ++ toString Connection.leastPort ++
      ".." ++ toString Connection.greatestPort)
  | .notAPort quoted => about Slot.port.name ("invalid _port value: " ++ quoted)
  | .negativeTimeout => about Flag.timeout.label "value must be >= 0"
  | .notATimeout quoted =>
    about Flag.timeout.label ("invalid _non_negative_float value: " ++ quoted)
  | .notAChoice quoted => about Flag.protocol.label ("invalid choice: " ++ quoted ++
      " (choose from " ++ String.intercalate ", " choices ++ ")")

end ArgumentFault

/-! ## Words -/

/-- What stands behind an option in the same word. -/
inductive Attached where
  | nothing
  /-- A value after `=`. -/
  | value (text : String)
  /-- Letters behind a short option. -/
  | letters (text : String)
  deriving DecidableEq, Repr

/-- What a word of the command line is. -/
inductive Word where
  | separator
  | argument (text : String)
  /-- An option as it is written in full. -/
  | option (flag : Flag) (spelling : String) (attached : Attached)
  /-- A word that looks like an option and is none. -/
  | unknown (text : String)
  deriving DecidableEq, Repr

/-- A text up to its first `=`, and what is attached to it. -/
def splitAtEquals (cs : List Char) : List Char × Attached :=
  match cs.dropWhile (· ≠ '=') with
  | _ :: rest => (cs.takeWhile (· ≠ '='), .value (String.ofList rest))
  | [] => (cs, .nothing)

/-- A minus sign and a decimal number without exponent. -/
def isNegativeNumber (cs : List Char) : Bool :=
  let isDigit (c : Char) : Bool := (Text.decimalDigit? c).isSome
  match cs with
  | '-' :: rest =>
    let rest := if rest.getLast? = some '\n' then rest.dropLast else rest
    let whole := rest.takeWhile isDigit
    match rest.drop whole.length with
    | [] => !whole.isEmpty
    | '.' :: places => !places.isEmpty && places.all isDigit
    | _ => false
  | _ => false

/-- The options that a word may be short for, as they are written in full. -/
def completions (cs : List Char) : List (String × Flag × Attached) :=
  match cs with
  | '-' :: '-' :: _ =>
    let (start, attached) := splitAtEquals cs
    (Flag.spellings.filter fun s => start.isPrefixOf s.1.toList).map fun (spelling, flag) =>
      (spelling, flag, attached)
  | '-' :: c :: rest =>
    Flag.spellings.filterMap fun (spelling, flag) =>
      if spelling.toList = ['-', c] then some (spelling, flag, .letters (String.ofList rest))
      else none
  | _ => []

/-- Tells what a word is, if it stands before the separator. -/
def Word.read (text : String) : Except ArgumentFault Word :=
  let cs := text.toList
  match cs with
  | '-' :: _ :: _ =>
    match Flag.spellings.lookup text with
    | some f => .ok (.option f text .nothing)
    | none =>
      let (start, attached) := splitAtEquals cs
      match Flag.spellings.lookup (String.ofList start) with
      | some f => .ok (.option f (String.ofList start) attached)
      | none =>
        match completions cs with
        | [(spelling, flag, attached)] => .ok (.option flag spelling attached)
        | [] =>
          if isNegativeNumber cs || cs.contains ' ' then .ok (.argument text)
          else .ok (.unknown text)
        | several => .error (.ambiguous text (several.map (·.1)))
  | _ => .ok (.argument text)

/-- Tells what all words are. -/
def Word.readAll : List String → Except ArgumentFault (List Word)
  | [] => .ok []
  | text :: rest =>
    if text = "--" then .ok (.separator :: rest.map .argument)
    else do
      let word ← Word.read text
      return word :: (← Word.readAll rest)

/-- A word as it stood on the command line, where that is asked for. -/
def Word.text : Word → String
  | .separator => "--"
  | .argument text => text
  | .option _ spelling _ => spelling
  | .unknown text => text

def Word.isOption : Word → Bool
  | .option _ _ _ | .unknown _ => true
  | _ => false

/-! ## Values -/

/-- A port number. -/
def readPort (text : String) : Except ArgumentFault Value :=
  match Decimal.readInt? text with
  | none => .error (.notAPort (Value.text text).quoted)
  | some n =>
    if Connection.leastPort ≤ n ∧ n ≤ Connection.greatestPort then .ok (.int n)
    else .error .portRange

/-- A time in seconds. -/
def readTimeout (text : String) : Except ArgumentFault Value :=
  match Decimal.readFloat? text with
  | none => .error (.notATimeout (Value.text text).quoted)
  | some x => if x < 0.0 then .error .negativeTimeout else .ok (.float x)

/-- One of the protocols to choose from. -/
def readProtocol (text : String) : Except ArgumentFault Value :=
  if (Tls.protocolOfName? text).isSome then .ok (.text text)
  else .error (.notAChoice (Value.text text).quoted)

/-- The value of the texts that belong to one argument, without the first separator among them; no
text at all is an empty list. -/
def valueOf (read : String → Except ArgumentFault Value) (texts : List String) :
    Except ArgumentFault Value :=
  match texts.erase "--" with
  | [text] => read text
  | texts => .list <$> texts.mapM read

/-! ## The command line as a whole -/

structure Arguments where
  host : Value
  port : Value
  config : Value
  cafile : Value
  certfile : Value
  keyfile : Value
  protocol : Value
  timeout : Value
  noCheckHostname : Bool
  debug : Bool
  json : Bool

/-- Arguments before any word is read. -/
def Arguments.none : Arguments :=
  ⟨.null, .null, .null, .null, .null, .null, .null, .null, false, false, false⟩

def Arguments.setSlot (a : Arguments) (slot : Slot) (texts : List String) :
    Except ArgumentFault Arguments :=
  match slot with
  | .host => (valueOf (fun t => .ok (.text t)) texts).map fun v => { a with host := v }
  | .port => (valueOf readPort texts).map fun v => { a with port := v }

def Arguments.setFlag (a : Arguments) (flag : Flag) (texts : List String) :
    Except ArgumentFault Arguments :=
  let plain := valueOf (fun t => .ok (.text t)) texts
  match flag with
  | .help => .ok a
  | .config => plain.map fun v => { a with config := v }
  | .cafile => plain.map fun v => { a with cafile := v }
  | .certfile => plain.map fun v => { a with certfile := v }
  | .keyfile => plain.map fun v => { a with keyfile := v }
  | .protocol => (valueOf readProtocol texts).map fun v => { a with protocol := v }
  | .timeout => (valueOf readTimeout texts).map fun v => { a with timeout := v }
  | .noCheckHostname => .ok { a with noCheckHostname := true }
  | .debug => .ok { a with debug := true }
  | .json => .ok { a with json := true }

/-- How far a command line has been read. -/
structure Reading where
  arguments : Arguments
  /-- Positional arguments that are still to come. -/
  slots : List Slot
  leftOver : List String

/-- What a command line asks for. -/
inductive Wish where
  | help
  | probe (a : Arguments)

/-- The words of one positional argument: itself and the separators around it. -/
def takeSlotWords (words : List Word) : Option (List String × List Word) :=
  let before := words.takeWhile (· == .separator)
  match words.drop before.length with
  | .argument text :: rest =>
    let after := rest.takeWhile (· == .separator)
    some (before.map (·.text) ++ text :: after.map (·.text), rest.drop after.length)
  | _ => none

/-- Fills as many positional arguments as the next words allow. -/
def takeSlots (a : Arguments) : List Slot → List Word →
    Except ArgumentFault (Arguments × List Slot × List Word)
  | [], words => .ok (a, [], words)
  | slot :: slots, words =>
    match takeSlotWords words with
    | none => .ok (a, slot :: slots, words)
    | some (texts, rest) => do takeSlots (← a.setSlot slot texts) slots rest

/-- Checks the letters behind a short option without value, each a further such option.  A letter
that is none ends the check. -/
def checkLetters (flag : Flag) : List Char → Except ArgumentFault Unit
  | [] => .ok ()
  | '-' :: rest => .error (.unwantedValue flag (Value.text (String.ofList ('-' :: rest))).quoted)
  | c :: rest =>
    match Flag.spellings.lookup (String.ofList ['-', c]), rest with
    | none, _ => .ok ()
    | some f, '=' :: v => .error (.unwantedValue f (Value.text (String.ofList v)).quoted)
    | some f, rest => checkLetters f rest

/-- Reads an option with the value it may have; `none` is the wish for help. -/
def takeOption (a : Arguments) (flag : Flag) (attached : Attached) (rest : List Word) :
    Except ArgumentFault (Option Arguments × List Word) :=
  let done (texts : List String) (rest : List Word) :
      Except ArgumentFault (Option Arguments × List Word) :=
    if flag = .help then .ok (none, rest)
    else (a.setFlag flag texts).map fun a => (some a, rest)
  match flag.takesValue, attached with
  | true, .value v | true, .letters v => done [v] rest
  | true, .nothing =>
    match rest with
    | .argument text :: rest => done [text] rest
    | _ => .error (.noValue flag)
  | false, .nothing => done [] rest
  | false, .value v => .error (.unwantedValue flag (Value.text v).quoted)
  | false, .letters v => do
    checkLetters flag v.toList
    done [] rest

/-- Reads options and the positional arguments between them; `none` is the wish for help. -/
def readWords : (fuel : Nat) → Reading → List Word → Except ArgumentFault (Option Reading)
  | 0, r, words => .ok (some { r with leftOver := r.leftOver ++ words.map (·.text) })
  | fuel + 1, r, words =>
    match words with
    | [] => .ok (some r)
    | .unknown text :: rest => readWords fuel { r with leftOver := r.leftOver ++ [text] } rest
    | .option flag _ attached :: rest => do
      match ← takeOption r.arguments flag attached rest with
      | (none, _) => return none
      | (some a, rest) => readWords fuel { r with arguments := a } rest
    | _ => do
      let (a, slots, rest) ← takeSlots r.arguments r.slots words
      let r := { r with arguments := a, slots }
      if rest.length < words.length then readWords fuel r rest
      else
        let extra := words.takeWhile (!·.isOption)
        readWords fuel { r with leftOver := r.leftOver ++ extra.map (·.text) }
          (words.drop extra.length)

/-- What the words of a command line ask for. -/
def Wish.read (texts : List String) : Except ArgumentFault Wish := do
  let words ← Word.readAll texts
  match ← readWords (2 * words.length + 1) ⟨.none, [.host, .port], []⟩ words with
  | none => return .help
  | some r =>
    if !r.slots.isEmpty then throw (.missing (r.slots.map (·.name)))
    else if !r.leftOver.isEmpty then throw (.leftOver r.leftOver)
    else return .probe r.arguments

end TrustGate.Probe
