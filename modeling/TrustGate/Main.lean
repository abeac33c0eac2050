import TrustGate.Probe.Run
import TrustGate.Rehearsal.Stage
import Std.Time.DateTime.Timestamp

/-!
# The program

The probe on a host without a network: the command line, the configuration and the
material are checked for what they are, and connecting fails as it does where no name
resolves.  The files that the command line names, and those that these files name, are
read before the run.
-/

namespace TrustGate.Program

open Rehearsal (Stage)

/-- A platform that resolves no name. -/
def offline (now : Float) : Stage :=
  let stage := Stage.start now 0.0
  let unresolved : Failure :=
    .mk .addressInfo [.int (-3), .text "Temporary failure in name resolution"] none
  { stage with
    net := { stage.net with
      resolve := { stage.net.resolve with failure := some unresolved }
      directFailure := some unresolved } }

/-- The texts in a value and in the tables below it. -/
def textsIn : (depth : Nat) → Value → List String
  | _, .text s => [s]
  | depth + 1, .dict entries => entries.flatMap fun e => textsIn depth e.2
  | _, _ => []

/-- What the words of a command line may name. -/
def namedByWords (words : List String) : List String :=
  words.flatMap fun w => [w, String.ofList ((w.toList.dropWhile (· ≠ '=')).drop 1)]

/-- What a file may name, if it is a document. -/
def namedByFile (content : Octets) : List String :=
  match (Encoding.decodeUtf8? content).bind Toml.read? with
  | some document => textsIn 3 (.dict document)
  | none => []

/-- The file of a name, if it can be read. -/
def readNamed (name : String) : IO (List (String × Octets)) := do
  try
    return [(name, (← IO.FS.readBinFile name).toList)]
  catch _ => return []

def readAllNamed (names : List String) : IO (List (String × Octets)) := do
  let found ← (names.filter fun n => n ≠ "" ∧ !hasNull n).mapM readNamed
  return found.flatten

/-- A system with just the files that were read. -/
def filesRead (found : List (String × Octets)) : Files where
  stat path := if (found.lookup path).isSome then .ok .regular else .error .notFound
  contents path :=
    match found.lookup path with
    | some content => .ok content
    | none => .error (.opening .notFound)

/-- The files that a run may look at. -/
def filesFor (words : List String) : IO Files := do
  let first ← readAllNamed (namedByWords words)
  let second ← readAllNamed (first.flatMap fun f => namedByFile f.2)
  return filesRead ((first ++ second).map fun (name, content) => (normalPath name, content))

/-- Seconds since the epoch. -/
def secondsNow : IO Float := do
  let time ← Std.Time.Timestamp.now
  return Decimal.ofInt time.toSecondsSinceUnixEpoch.val

end TrustGate.Program

open TrustGate in
/-- Runs the probe and exits with its status. -/
def main (words : List String) : IO UInt32 := do
  let files ← Program.filesFor words
  let stage := Program.offline (← Program.secondsNow)
  let world : World Rehearsal.Stage Float :=
    { World.initial stage files with systemLog := ← IO.getEnv "SSLFACTORY_LOG_SYSLOG" }
  let errors ← IO.getStderr
  match (Probe.run words : Action Rehearsal.Stage Float Probe.Ending).run world with
  | .ok ending w =>
    errors.putStr (String.join w.journal.errorOutput.reverse)
    if ending.complaint ≠ "" then errors.putStrLn ending.complaint
    (← IO.getStdout).putStr ending.output
    return UInt32.ofNat ending.status
  | .error f w =>
    errors.putStr (String.join w.journal.errorOutput.reverse)
    errors.putStrLn f.report
    return 1
