import TrustGate.Config.Basic
import TrustGate.Toml.Document

/-!
# Loading configurations

    Config.ofEntries entries   a mapping that is a usable configuration
    Config.load path           the same of a TOML file, or of its own table in it

A usable configuration names material that exists.  That host names are not checked is
worth a warning.
-/

namespace TrustGate

/-- Why a configuration cannot be used. -/
inductive LoadFault where
  | invalid (fault : String)
  | noMaterial
  | unreadable (path failure : String)
  | malformed (path : String)
  | noTable (path : String)
  deriving DecidableEq, Repr

namespace Config

def logger : String := "sslfactory.config.settings"

/-- The table that a file may keep the configuration in. -/
def ownTable : String := "sslfactory"

end Config

instance : Cause LoadFault where
  kind _ := .configuration
  message
    | .invalid fault => "Invalid sslfactory configuration: " ++ fault
    | .noMaterial => "Configuration must provide trust material (cafile/cadata) or identity " ++
        "material (certfile)"
    | .unreadable path failure => "Cannot read configuration file " ++ path ++ ": " ++ failure
    | .malformed path => "Malformed configuration file " ++ path
    | .noTable path => "[" ++ Config.ownTable ++ "] in " ++ path ++ " must be a table"

/-- A document that is not TOML. -/
structure MalformedToml where

instance : Cause MalformedToml where
  kind _ := .decoding
  message _ := ""

instance : Cause Encoding.Utf8Fault where
  kind _ := .unicodeDecode
  message f :=
    "'utf-8' codec can't decode " ++
      (if f.stop ≤ f.start + 1 then "byte 0x" ++ String.ofList (Text.hex 2 f.octet.toNat) ++
          " in position " ++ toString f.start
        else "bytes in position " ++ toString f.start ++ "-" ++ toString (f.stop - 1)) ++
      ": " ++ f.reason

namespace Config

/-- A mapping's configuration, where a fault is a failure caused by it. -/
def checked (entries : List (Value × Value)) : Except Failure Config :=
  match decode entries with
  | .ok c => .ok c
  | .error fault =>
    .error ((Failure.of (LoadFault.invalid (Cause.message fault))).because (Failure.of fault))

/-- The table of a document that holds the configuration: its own, or all of it. -/
def tableOf (path : String) (document : Toml.Table) : Except Failure (List (Value × Value)) :=
  match document.get? ownTable with
  | none => .ok document
  | some (.dict entries) => .ok entries
  | some _ => refuse (LoadFault.noTable path)

/-- The document in a file; faults name the normalised path. -/
def readDocument (files : Files) (path : String) : Except Failure Toml.Table := do
  let octets ← match files.read path with
    | .ok octets => pure octets
    | .error f =>
      if f.kind.isOs then
        .error ((Failure.of (LoadFault.unreadable (normalPath path) f.message)).because f)
      else .error f
  let text ← match Encoding.decodeUtf8 octets with
    | .ok text => pure text
    | .error fault => refuse fault
  match Toml.read? text with
  | some document => return document
  | none =>
    .error ((Failure.of (LoadFault.malformed (normalPath path))).because
      (Failure.of MalformedToml.mk))

variable {π τ : Type} [Platform π τ]

/-- The usable configuration of a mapping. -/
def ofEntries (entries : List (Value × Value)) : Action π τ Config := do
  let c ← Action.ofExcept (checked entries)
  if !c.checkHostname then
    warningLog logger
      "TLS host name checking is disabled; any certificate from a trusted CA is accepted." []
  let files := (← get).files
  let identity ← Action.ofExcept (c.identityMaterial files)
  let trust ← Action.ofExcept (c.trustMaterial files)
  if trust.isNone && identity.isNone then Action.refuse LoadFault.noMaterial
  return c

/-- The usable configuration in a file. -/
def load (path : String) : Action π τ Config := do
  let document ← Action.ofExcept (readDocument (← get).files path)
  let table ← Action.ofExcept (tableOf (normalPath path) document)
  debugLog logger "Loaded configuration from %s" [.text (normalPath path)]
  ofEntries table

end Config

end TrustGate
