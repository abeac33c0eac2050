import TrustGate.Config.Load

/-!
# Logging as a configuration says

All records go to one handler: the system log, if the environment names its socket and
something is there, else the error output.
-/

namespace TrustGate.Config

variable {π τ : Type} [Platform π τ]

/-- Sets the journal up for a configuration. -/
def configureLogging (c : Config) : Action π τ Unit := do
  let w ← get
  let address := (nonempty? w.systemLog).filter w.files.pathExists
  set { w with journal := w.journal.configure c.debugLogging address }
  debugLog Logging.Journal.libraryLogger "Logging configured at level %s"
    [.text (Logging.levelName (Logging.Journal.configuredLevel c.debugLogging))]

end TrustGate.Config
